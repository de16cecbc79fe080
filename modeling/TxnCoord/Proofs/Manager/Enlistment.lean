import TxnCoord.Proofs.Manager.Nesting
import TxnCoord.Proofs.Manager.TaskStacks
/-!
# One enlistment at a time

A joining scope with nothing to share takes the handle that its manager has enlisted in the
current unit of work, and makes and enlists one on first use. The manager does that under its
enlistment lock: it takes the lock, forgets the enlistments whose unit was let go, looks the
unit up in its registry, and only if no adapter is registered for it makes a handle, saves a
recovery descriptor, enlists the adapter in the unit and registers it; then it gives the lock
back. Each of these may wait, and other begins run meanwhile.

The statement is one of rely and guarantee, for one begin at a time (`enlistRules`). A begin
of manager `m` that runs under owner `o`, with `l` the manager's lock and `u` the unit it
would join, guarantees of each of its steps (`World.Enlisting`):

* it takes the lock only when it is free, and hands it on only while it holds it;
* the registry grows only while it holds the lock;
* the unit gains a party only while it holds the lock and no adapter is registered for the
  unit;
* the registry keeps at most one adapter per unit (`World.OnePerUnit`).

It relies on others not to take the lock from it, nor to register anything while it holds
it (`World.Excluded`), and the steps that another begin of the same manager guarantees are
such steps (`World.Enlisting.excluded`). So in any interleaving of begins of one manager, an
enlistment in `u` happens only under the lock, with nothing registered for `u`, and two of
them never overlap.

Which scopes take the unit's enlistment, and which handle they get, is the nesting policy
(`Manager.nesting`): a join that has no open handle to share, that sits in no suppressed
scope, while a unit of work is current. Its record then names the handle of the adapter the
registry holds for the unit when the begin returns.
-/

namespace TxnCoord

open World (HandleMove Move Aside)
open scoped List

namespace World

/-- Manager `m` has at most one adapter registered for each unit of work. -/
def OnePerUnit (m : Nat) (s : World) : Prop := ((s.manager m).enlistments.map (·.1)).Nodup

/-- The parties of a unit of work. -/
def parties (s : World) : UnitRef → List Party
  | .local i => (s.unit i).parties.map (·.1)
  | .manual i => (s.manualUnit i).parties.map .adapter

theorem lock_modifyLock (w : World) (i j : Nat) (f : Lock → Lock) :
    (w.modifyLock i f).lock j = if i = j ∧ j < w.locks.size then f (w.lock j) else w.lock j := by
  simp only [World.lock, World.modifyLock, Array.getElem?_modify]
  by_cases hij : i = j
  · subst hij
    by_cases hs : i < w.locks.size
    · simp [hs]
    · simp [hs]
  · simp [hij]

theorem unit_modifyUnit (w : World) (i j : Nat) (f : LocalUnit → LocalUnit) :
    (w.modifyUnit i f).unit j = if i = j ∧ j < w.units.size then f (w.unit j) else w.unit j := by
  simp only [World.unit, World.modifyUnit, Array.getElem?_modify]
  by_cases hij : i = j
  · subst hij
    by_cases hs : i < w.units.size
    · simp [hs]
    · simp [hs]
  · simp [hij]

theorem manualUnit_modifyManualUnit (w : World) (i j : Nat) (f : ManualUnit → ManualUnit) :
    (w.modifyManualUnit i f).manualUnit j =
      if i = j ∧ j < w.manualUnits.size then f (w.manualUnit j) else w.manualUnit j := by
  simp only [World.manualUnit, World.modifyManualUnit, Array.getElem?_modify]
  by_cases hij : i = j
  · subst hij
    by_cases hs : i < w.manualUnits.size
    · simp [hs]
    · simp [hs]
  · simp [hij]

@[simp] theorem lock_hold (w : World) (x : Hold) (i : Nat) : (w.hold x).lock i = w.lock i := rfl

/-- Changing another lock leaves lock `l` alone. -/
theorem lock_modifyLock_ne (w : World) {k l : Nat} (hk : k ≠ l) (f : Lock → Lock) :
    (w.modifyLock k f).lock l = w.lock l := by
  rw [lock_modifyLock, if_neg fun h => hk h.1]

/-- A registry that only forgets keeps at most one adapter per unit. -/
theorem OnePerUnit.sublist {m : Nat} {s s' : World}
    (h : (s'.manager m).enlistments <+ (s.manager m).enlistments) (hs : OnePerUnit m s) :
    OnePerUnit m s' :=
  List.Nodup.sublist (h.map _) hs

/-- Registering an adapter for a unit, in place of any other, keeps at most one per unit. -/
theorem nodup_register {l : List (Uuid × Nat)} (hl : (l.map (·.1)).Nodup) (id : Uuid) (a : Nat) :
    ((l.filter (·.1 != id) ++ [(id, a)]).map (·.1)).Nodup := by
  rw [List.map_append, List.nodup_append]
  refine ⟨hl.sublist ((List.filter_sublist).map _), by simp, ?_⟩
  -- every key that survives the filter differs from `id`
  intro k hk k' hk'
  obtain ⟨⟨k₀, a₀⟩, hmem, rfl⟩ := List.mem_map.1 hk
  simp only [List.map_cons, List.map_nil, List.mem_singleton] at hk'
  subst hk'
  have hne := (List.mem_filter.1 hmem).2
  simpa using hne

/-- Registering an adapter for a unit, in place of any other, keeps at most one per unit. -/
theorem OnePerUnit.register {m : Nat} {s : World} (h : OnePerUnit m s) (id : Uuid) (a : Nat) :
    OnePerUnit m (s.modifyManager m fun mg =>
      { mg with enlistments := (mg.enlistments.filter (·.1 != id)) ++ [(id, a)] }) := by
  unfold OnePerUnit
  rw [manager_modifyManager]
  split
  · exact nodup_register h id a
  · exact h

theorem lookup_eq_none_of_sublist {l l' : List (Uuid × Nat)} (h : l' <+ l) {id : Uuid}
    (hl : l.lookup id = none) : l'.lookup id = none := by
  rw [List.lookup_eq_none_iff] at hl ⊢
  exact fun p hp => hl p (h.subset hp)

/-- The managers and the units of work are as they were. -/
structure Untouched (s s' : World) : Prop where
  managers : s'.managers = s.managers
  units : s'.units = s.units
  manualUnits : s'.manualUnits = s.manualUnits

namespace Untouched

theorem refl (s : World) : Untouched s s := ⟨rfl, rfl, rfl⟩

theorem trans {a b c : World} (h₁ : Untouched a b) (h₂ : Untouched b c) : Untouched a c :=
  ⟨h₂.managers.trans h₁.managers, h₂.units.trans h₁.units, h₂.manualUnits.trans h₁.manualUnits⟩

theorem manager {s s' : World} (h : Untouched s s') (m : Nat) : s'.manager m = s.manager m := by
  simp only [World.manager, h.managers]

theorem unit {s s' : World} (h : Untouched s s') (i : Nat) : s'.unit i = s.unit i := by
  simp only [World.unit, h.units]

theorem parties {s s' : World} (h : Untouched s s') (u : UnitRef) : s'.parties u = s.parties u := by
  cases u with
  | «local» i => simp only [World.parties, World.unit, h.units]
  | manual i => simp only [World.parties, World.manualUnit, h.manualUnits]

theorem hold (s : World) (x : Hold) : Untouched s (s.hold x) := ⟨rfl, rfl, rfl⟩

theorem unhold (s : World) (x : Hold) : Untouched s (s.unhold x) := by
  unfold World.unhold
  split
  · exact ⟨rfl, rfl, rfl⟩
  · split
    · exact ⟨rfl, rfl, rfl⟩
    · exact refl s

theorem modifyLock (s : World) (k : Nat) (f : Lock → Lock) : Untouched s (s.modifyLock k f) :=
  ⟨rfl, rfl, rfl⟩

theorem unlock (s : World) (k : Nat) : Untouched s (s.unlock k) := by
  unfold World.unlock
  split <;> exact ⟨rfl, rfl, rfl⟩

end Untouched

/-- A step that leaves the enlistment of manager `m` under lock `l` alone: the lock keeps its
holder, the registry at most forgets, and every unit of work keeps its parties and its lock. -/
structure Apart (m l : Nat) (s s' : World) : Prop where
  holder : (s'.lock l).holder = (s.lock l).holder
  registry : (s'.manager m).enlistments <+ (s.manager m).enlistments
  parties : ∀ u, s'.parties u = s.parties u
  unitLock : ∀ i, (s'.unit i).lock = (s.unit i).lock

/-- A change of neither the managers nor the units, that leaves lock `l` with its holder. -/
theorem Untouched.apart {m l : Nat} {s s' : World} (h : Untouched s s')
    (hl : (s'.lock l).holder = (s.lock l).holder) : Apart m l s s' :=
  ⟨hl, (h.manager m).symm ▸ List.Sublist.refl _, h.parties, fun i => by rw [h.unit i]⟩

namespace Apart

variable {m l : Nat}

theorem refl (s : World) : Apart m l s s :=
  ⟨rfl, List.Sublist.refl _, fun _ => rfl, fun _ => rfl⟩

theorem trans {a b c : World} (h₁ : Apart m l a b) (h₂ : Apart m l b c) : Apart m l a c :=
  ⟨h₂.holder.trans h₁.holder, h₂.registry.trans h₁.registry,
    fun u => (h₂.parties u).trans (h₁.parties u), fun i => (h₂.unitLock i).trans (h₁.unitLock i)⟩

/-- A change of a local unit that keeps its lock and who its parties are. -/
theorem modifyUnit (s : World) (i : Nat) {f : LocalUnit → LocalUnit}
    (hf : ∀ x, (f x).lock = x.lock ∧ (f x).parties.map (·.1) = x.parties.map (·.1)) :
    Apart m l s (s.modifyUnit i f) := by
  refine ⟨rfl, List.Sublist.refl _, fun u => ?_, fun j => ?_⟩
  · cases u with
    | «local» j =>
      simp only [World.parties, unit_modifyUnit]
      split
      · exact (hf _).2
      · rfl
    | manual j => rfl
  · rw [unit_modifyUnit]
    split
    · exact (hf _).1
    · rfl

/-- A change of a manual unit that keeps its parties. -/
theorem modifyManualUnit (s : World) (i : Nat) {f : ManualUnit → ManualUnit}
    (hf : ∀ x, (f x).parties = x.parties) : Apart m l s (s.modifyManualUnit i f) := by
  refine ⟨rfl, List.Sublist.refl _, fun u => ?_, fun _ => rfl⟩
  cases u with
  | «local» j => rfl
  | manual j =>
    simp only [World.parties, manualUnit_modifyManualUnit]
    split
    · rw [hf]
    · rfl

/-- Forgetting some of a manager's enlistments. -/
theorem forget (s : World) (i : Nat) (keep : Uuid × Nat → Bool) :
    Apart m l s (s.modifyManager i fun mg => { mg with enlistments := mg.enlistments.filter keep }) := by
  refine ⟨rfl, ?_, fun u => ?_, fun _ => rfl⟩
  · rw [manager_modifyManager]
    split
    · exact List.filter_sublist
    · exact List.Sublist.refl _
  · cases u <;> rfl

/-- A change of the managers that keeps every registry. -/
theorem modifyManager (s : World) (i : Nat) {g : Manager → Manager}
    (hg : ∀ mg, (g mg).enlistments = mg.enlistments) : Apart m l s (s.modifyManager i g) := by
  refine ⟨rfl, ?_, fun u => ?_, fun _ => rfl⟩
  · rw [manager_modifyManager]
    split
    · exact (hg _).symm ▸ List.Sublist.refl _
    · exact List.Sublist.refl _
  · cases u <;> rfl

/-- Taking or giving back any other lock, or changing what owners hold. -/
theorem modifyLock (s : World) {k : Nat} (hk : k ≠ l) (f : Lock → Lock) :
    Apart m l s (s.modifyLock k f) :=
  (Untouched.modifyLock s k f).apart (by rw [lock_modifyLock_ne s hk])

theorem hold (s : World) (x : Hold) : Apart m l s (s.hold x) := (Untouched.hold s x).apart rfl

theorem unhold (s : World) (x : Hold) : Apart m l s (s.unhold x) := by
  refine (Untouched.unhold s x).apart ?_
  unfold World.unhold
  split
  · rfl
  · split
    · rfl
    · rfl

/-- Handing another lock on. -/
theorem unlock (s : World) {k : Nat} (hk : k ≠ l) : Apart m l s (s.unlock k) := by
  refine (Untouched.unlock s k).apart ?_
  unfold World.unlock
  split
  · exact congrArg Lock.holder (lock_modifyLock_ne s hk _)
  · rw [lock_modifyLock_ne s hk]

theorem letGoUnit (s : World) (u : UnitRef) : Apart m l s (s.letGoUnit u) := by
  cases u with
  | «local» i => exact modifyUnit s i fun _ => ⟨rfl, rfl⟩
  | manual i => exact modifyManualUnit s i fun _ => rfl

/-- Holding a unit of work counts one more user of it and notes the hold. -/
theorem holdUnit (s : World) (u : UnitRef) :
    Apart m l s ((match u with
      | .local i => s.modifyUnit i fun x => { x with inFlight := x.inFlight + 1 }
      | .manual i => s.modifyManualUnit i fun x => { x with inFlight := x.inFlight + 1 }).hold
        (.unitRef u)) := by
  cases u with
  | «local» i =>
    exact (modifyUnit s i (f := fun x => { x with inFlight := x.inFlight + 1 })
      fun _ => ⟨rfl, rfl⟩).trans (hold _ _)
  | manual i =>
    exact (modifyManualUnit s i (f := fun x => { x with inFlight := x.inFlight + 1 })
      fun _ => rfl).trans (hold _ _)

/-- The code of handles leaves the enlistment alone. -/
theorem of_handleMove {H : Nat → Prop} {s s' : World} (h : HandleMove H s s') : Apart m l s s' := by
  induction h with
  | refl s => exact refl s
  | trans _ _ ih₁ ih₂ => exact ih₁.trans ih₂
  | handle s g _ _ => exact Untouched.apart ⟨rfl, rfl, rfl⟩ rfl
  | add s hd => exact Untouched.apart ⟨rfl, rfl, rfl⟩ rfl
  | holds s hl => exact Untouched.apart ⟨rfl, rfl, rfl⟩ rfl
  | wakes s wk => exact Untouched.apart ⟨rfl, rfl, rfl⟩ rfl
  | peers s pr => exact Untouched.apart ⟨rfl, rfl, rfl⟩ rfl
  | log s lg => exact Untouched.apart ⟨rfl, rfl, rfl⟩ rfl

end Apart

/-- Code that takes no lock and enlists nothing leaves every enlistment alone. -/
theorem Aside.apart {m l : Nat} {s s' : World} (h : Aside s s') : Apart m l s s' := by
  induction h with
  | handles h => exact .of_handleMove h
  | trans _ _ ih₁ ih₂ => exact ih₁.trans ih₂
  | ledger s _ => exact Untouched.apart ⟨rfl, rfl, rfl⟩ rfl
  | sharedLedger s _ => exact Untouched.apart ⟨rfl, rfl, rfl⟩ rfl
  | forget s i keep => exact .forget s i keep
  | addAdapter s _ => exact Untouched.apart ⟨rfl, rfl, rfl⟩ rfl
  | promote s _ => exact Untouched.apart ⟨rfl, rfl, rfl⟩ rfl
  | unit s i f hf => exact .modifyUnit s i fun x => (hf x).2

/-! ## The rules of a begin -/

/-- What one step of a begin of manager `m`, running under owner `o`, may do to the
enlistment, where `l` is the manager's lock and `u`, of identity `id`, the unit of work it may
enlist in: the lock is taken only when it is free, and handed on only by `o`; the registry
grows only while `o` holds the lock; the unit gains a party only while `o` holds the lock and no
adapter is registered for it; the registry keeps at most one adapter per unit, and every unit
keeps its lock. -/
structure Enlisting (m l : Nat) (u : UnitRef) (id : Uuid) (o : Nat) (s s' : World) : Prop where
  lock : (s'.lock l).holder = (s.lock l).holder ∨
    ((s.lock l).holder = none ∧ (s'.lock l).holder = some o) ∨ (s.lock l).holder = some o
  registry : (s'.manager m).enlistments <+ (s.manager m).enlistments ∨ (s.lock l).holder = some o
  enlist : (∀ p ∈ s'.parties u, p ∈ s.parties u) ∨
    ((s.lock l).holder = some o ∧ (s.manager m).enlistments.lookup id = none)
  onePerUnit : OnePerUnit m s → OnePerUnit m s'
  unitLock : ∀ i, (s'.unit i).lock = (s.unit i).lock

/-- What a begin of manager `m` under owner `o` relies on while it waits: while it holds lock
`l`, nobody takes the lock from it or registers anything; the registry keeps at most one
adapter per unit, and every unit keeps its lock. -/
structure Excluded (m l o : Nat) (s s' : World) : Prop where
  held : (s.lock l).holder = some o →
    (s'.lock l).holder = some o ∧ (s'.manager m).enlistments <+ (s.manager m).enlistments
  onePerUnit : OnePerUnit m s → OnePerUnit m s'
  unitLock : ∀ i, (s'.unit i).lock = (s.unit i).lock

/-- The scheduler's books between two steps of one run: they leave the choice of a handle
alone (`Calm`), keep the owner that runs and the holder of lock `l`, add no lock away, and
leave every unit of work its lock and its parties. -/
structure Books (l : Nat) (s s' : World) : Prop where
  calm : Calm s s'
  owner : s'.owner = s.owner
  holder : (s'.lock l).holder = (s.lock l).holder
  locks : s.locks.size ≤ s'.locks.size
  unitLock : ∀ i, (s'.unit i).lock = (s.unit i).lock
  parties : ∀ u, s'.parties u = s.parties u

theorem Books.refl {l : Nat} (s : World) : Books l s s :=
  ⟨Calm.refl s, rfl, rfl, Nat.le_refl _, fun _ => rfl, fun _ => rfl⟩

theorem Books.trans {l : Nat} {a b c : World} (h₁ : Books l a b) (h₂ : Books l b c) :
    Books l a c :=
  ⟨h₁.calm.trans h₂.calm, h₂.owner.trans h₁.owner, h₂.holder.trans h₁.holder,
    Nat.le_trans h₁.locks h₂.locks, fun i => (h₂.unitLock i).trans (h₁.unitLock i),
    fun u => (h₂.parties u).trans (h₁.parties u)⟩

theorem Books.enlistments {l : Nat} {s s' : World} (h : Books l s s') (m : Nat) :
    (s'.manager m).enlistments = (s.manager m).enlistments :=
  h.calm.sameRegistry.enlistments m

theorem Books.apart {m l : Nat} {s s' : World} (h : Books l s s') : Apart m l s s' :=
  ⟨h.holder, (h.enlistments m).symm ▸ List.Sublist.refl _, h.parties, h.unitLock⟩

namespace Excluded

variable {m l o : Nat}

theorem refl (s : World) : Excluded m l o s s :=
  ⟨fun h => ⟨h, List.Sublist.refl _⟩, id, fun _ => rfl⟩

theorem trans {a b c : World} (h₁ : Excluded m l o a b) (h₂ : Excluded m l o b c) :
    Excluded m l o a c where
  held h :=
    have hb := h₁.held h
    have hc := h₂.held hb.1
    ⟨hc.1, hc.2.trans hb.2⟩
  onePerUnit h := h₂.onePerUnit (h₁.onePerUnit h)
  unitLock i := (h₂.unitLock i).trans (h₁.unitLock i)

end Excluded

/-- A step that leaves the enlistment alone is one that every begin relies on. -/
theorem Apart.excluded {m l o : Nat} {s s' : World} (h : Apart m l s s') : Excluded m l o s s' :=
  ⟨fun hh => ⟨h.holder.trans hh, h.registry⟩, OnePerUnit.sublist h.registry, h.unitLock⟩

/-- A step that leaves the enlistment alone is one that every begin may take. -/
theorem Apart.enlisting {m l : Nat} {u : UnitRef} {id : Uuid} {o : Nat} {s s' : World}
    (h : Apart m l s s') : Enlisting m l u id o s s' :=
  ⟨.inl h.holder, .inl h.registry, .inl fun p hp => by rwa [h.parties] at hp,
    OnePerUnit.sublist h.registry, h.unitLock⟩

/-- **Begins exclude each other.** What another begin of the same manager guarantees of its
steps is what a begin relies on: it cannot take the lock this one holds, nor register anything
while this one holds it. -/
theorem Enlisting.excluded {m l : Nat} {u : UnitRef} {id : Uuid} {o o' : Nat} {s s' : World}
    (hne : o' ≠ o) (h : Enlisting m l u id o' s s') : Excluded m l o s s' := by
  refine ⟨fun hheld => ?_, h.onePerUnit, h.unitLock⟩
  -- the other begin does not hold the lock, and it is not free
  have hnot : (s.lock l).holder ≠ some o' := fun h' => hne (Option.some.inj (h'.symm.trans hheld))
  have hlock : (s'.lock l).holder = some o := by
    rcases h.lock with hsame | ⟨hfree, -⟩ | hmine
    · exact hsame.trans hheld
    · rw [hheld] at hfree
      cases hfree
    · exact absurd hmine hnot
  exact ⟨hlock, h.registry.resolve_right hnot⟩

end World

/-- The rules of a begin of manager `m` under owner `o`, where `l` is the manager's lock and
`u`, of identity `id`, the unit of work it would join. A wait on a condition ends once the
condition holds. -/
def enlistRules (m l : Nat) (u : UnitRef) (id : Uuid) (o : Nat) : Rules World Cond :=
  ⟨World.Excluded m l o, World.Books l, World.Enlisting m l u id o,
    fun c s => World.host.holds c s = true⟩

theorem enlistRules_local (m l : Nat) (u : UnitRef) (id : Uuid) (o : Nat) :
    (enlistRules m l u id o).Local where
  rely_refl := World.Excluded.refl
  rely_trans _ _ _ := World.Excluded.trans
  sched_refl := World.Books.refl
  sched_trans _ _ _ := World.Books.trans
  guar_refl s := (World.Apart.refl s).enlisting
  sched_rely _ _ h := h.apart.excluded


namespace World

/-- A change of the parties of units of work alone: the managers, the locks and the lock of
every unit are as they were. -/
structure Joins (s s' : World) : Prop where
  managers : s'.managers = s.managers
  locks : s'.locks = s.locks
  unitLock : ∀ i, (s'.unit i).lock = (s.unit i).lock

namespace Joins

theorem manager {s s' : World} (h : Joins s s') (m : Nat) : s'.manager m = s.manager m := by
  simp only [World.manager, h.managers]

theorem holder {s s' : World} (h : Joins s s') (l : Nat) :
    (s'.lock l).holder = (s.lock l).holder := by
  simp only [World.lock, h.locks]

/-- Nobody waiting for the lock minds parties joining a unit. -/
theorem excluded {m l o : Nat} {s s' : World} (h : Joins s s') : Excluded m l o s s' :=
  ⟨fun hh => ⟨(h.holder l).trans hh, (h.manager m).symm ▸ List.Sublist.refl _⟩,
    fun hs => by unfold OnePerUnit; rw [h.manager m]; exact hs, h.unitLock⟩

theorem modifyUnit (s : World) (i : Nat) {f : LocalUnit → LocalUnit}
    (hf : ∀ x, (f x).lock = x.lock) : Joins s (s.modifyUnit i f) := by
  refine ⟨rfl, rfl, fun j => ?_⟩
  rw [unit_modifyUnit]
  split
  · exact hf _
  · rfl

theorem modifyManualUnit (s : World) (i : Nat) (f : ManualUnit → ManualUnit) :
    Joins s (s.modifyManualUnit i f) :=
  ⟨rfl, rfl, fun _ => rfl⟩

end Joins

end World

/-! ## What a begin knows -/

namespace World

variable {m l o : Nat} {u : UnitRef} {id : Uuid}

/-- What a begin keeps true throughout: manager `m` has at most one adapter per unit, and the
unit of work `u`, if local, is under another lock than `l`. -/
structure Standing (m l : Nat) (u : UnitRef) (s : World) : Prop where
  onePerUnit : OnePerUnit m s
  unitLock : ∀ i, u = .local i → (s.unit i).lock ≠ l

/-- Begin `o` holds lock `l`, and the standing facts hold. -/
structure Holding (m l : Nat) (u : UnitRef) (o : Nat) (s : World) : Prop where
  held : (s.lock l).holder = some o
  standing : Standing m l u s

/-- Begin `o` holds lock `l`, and nothing is registered for the unit of identity `id`. -/
structure Vacant (m l : Nat) (u : UnitRef) (id : Uuid) (o : Nat) (s : World) : Prop where
  holding : Holding m l u o s
  vacant : (s.manager m).enlistments.lookup id = none

/-- Where a call for the handle of unit `u` starts: it runs under `o`, the manager's lock is
`l`, which exists, the unit has identity `id`, and the standing facts hold. -/
structure Ready (m l : Nat) (u : UnitRef) (id : Uuid) (o : Nat) (s : World) : Prop where
  owner : s.owner = o
  lock : (s.manager m).enlistLock = l
  lockExists : l < s.locks.size
  unitId : s.unitId u = id
  standing : Standing m l u s

/-- Where a begin starts: ready, and the unit of work it would join, if any, is `u`. -/
structure Entry (m l : Nat) (u : UnitRef) (id : Uuid) (o : Nat) (s : World) : Prop where
  ready : Ready m l u id o s
  unit : ∀ b u', Manager.ambientUnit s m b = some u' → u' = u

theorem Standing.excluded {s s' : World} (h : Standing m l u s) (he : Excluded m l o s s') :
    Standing m l u s' :=
  ⟨he.onePerUnit h.onePerUnit, fun i hi => by rw [he.unitLock i]; exact h.unitLock i hi⟩

theorem Standing.apart {s s' : World} (h : Standing m l u s) (ha : Apart m l s s') :
    Standing m l u s' :=
  ⟨OnePerUnit.sublist ha.registry h.onePerUnit, fun i hi => by rw [ha.unitLock i]; exact h.unitLock i hi⟩

theorem Standing.untouched {s s' : World} (h : Standing m l u s) (hu : Untouched s s') :
    Standing m l u s' :=
  ⟨OnePerUnit.sublist ((hu.manager m).symm ▸ List.Sublist.refl _) h.onePerUnit,
    fun i hi => by rw [hu.unit i]; exact h.unitLock i hi⟩

theorem stable_standing : Stable (Excluded m l o) (Standing m l u) :=
  fun _ _ h he => h.excluded he

theorem stable_holding : Stable (Excluded m l o) (Holding m l u o) :=
  fun _ _ h he => ⟨(he.held h.held).1, h.standing.excluded he⟩

theorem stable_vacant : Stable (Excluded m l o) (Vacant m l u id o) :=
  fun _ _ h he => ⟨stable_holding _ _ h.holding he,
    lookup_eq_none_of_sublist (he.held h.holding.held).2 h.vacant⟩

theorem Ready.books {s s' : World} (h : Ready m l u id o s) (hb : Books l s s') :
    Ready m l u id o s' where
  owner := hb.owner.trans h.owner
  lock := by
    have hman := congrArg Manager.enlistLock (hb.calm.manager m)
    exact hman.trans h.lock
  lockExists := Nat.lt_of_lt_of_le h.lockExists hb.locks
  unitId := (hb.calm.unitId u).trans h.unitId
  standing := h.standing.apart hb.apart

theorem Entry.books {s s' : World} (h : Entry m l u id o s) (hb : Books l s s') :
    Entry m l u id o s' :=
  ⟨h.ready.books hb, fun b u' hu => h.unit b u' ((hb.calm.ambientUnit m b) ▸ hu)⟩

/-- Holding a unit of work is a step of the books. -/
theorem Books.holdUnit (s : World) (u : UnitRef) :
    Books l s ((match u with
      | .local i => s.modifyUnit i fun x => { x with inFlight := x.inFlight + 1 }
      | .manual i => s.modifyManualUnit i fun x => { x with inFlight := x.inFlight + 1 }).hold
        (.unitRef u)) := by
  have ha := Apart.holdUnit (m := 0) (l := l) s u
  refine ⟨Manager.calm_holdUnit s u, ?_, ha.holder, ?_, ha.unitLock, ha.parties⟩
  · cases u <;> rfl
  · cases u <;> exact Nat.le_refl _

/-- Making an empty stack and noting it for the task is a step of the books. -/
theorem Books.stackFor (s : World) (m : Nat) (b : Manager → List (Nat × Nat)) :
    Books l s (s.newContext.2.modifyManager m fun mg => { mg with byTask := b mg }) :=
  ⟨Calm.stackFor s m b, rfl, rfl, Nat.le_refl _, fun _ => rfl, fun u => by cases u <;> rfl⟩

end World


/-! ## Steps of a begin -/

section Steps

variable {m l : Nat} {u : UnitRef} {id : Uuid} {o : Nat}

open World (Apart Excluded Enlisting Standing Holding Vacant)

/-- Code whose every step leaves the enlistment alone keeps every fact a begin relies on. -/
theorem KeepsFrame.enlisting {α : Type} {F : World → World → Prop} {x : Step α}
    (h : KeepsFrame F x) (hF : ∀ s s', F s s' → Apart m l s s') {P : World → Prop}
    (hP : Stable (Excluded m l o) P) : Triple (enlistRules m l u id o) P x fun _ => P :=
  h _ (enlistRules_local m l u id o)
    (fun s s' hs => ⟨(hF s s' hs).enlisting, (hF s s' hs).excluded⟩) P hP

/-- Code that takes no lock and enlists nothing keeps every fact a begin relies on. -/
theorem KeepsFrame.enlisting_aside {α : Type} {x : Step α} (h : KeepsFrame World.Aside x)
    {P : World → Prop} (hP : Stable (Excluded m l o) P) :
    Triple (enlistRules m l u id o) P x fun _ => P :=
  h.enlisting (fun _ _ hs => hs.apart) hP

/-- A change that a begin may make and that keeps what it relies on. -/
theorem Triple.change_excluded {f : World → World} {P : World → Prop}
    (hP : Stable (Excluded m l o) P) (hg : ∀ s, P s → Enlisting m l u id o s (f s))
    (he : ∀ s, P s → Excluded m l o s (f s)) :
    Triple (enlistRules m l u id o) P (Step.change f) fun _ => P :=
  (Triple.modify (ρ := enlistRules m l u id o) hg).post fun _ _ ⟨s, hs, hb⟩ =>
    hP _ _ (hP _ _ hs (he s hs)) (World.Books.apart hb).excluded

/-- A change that leaves the enlistment alone. -/
theorem Triple.change_apart {f : World → World} {P : World → Prop}
    (hP : Stable (Excluded m l o) P) (hf : ∀ s, P s → Apart m l s (f s)) :
    Triple (enlistRules m l u id o) P (Step.change f) fun _ => P :=
  Triple.change_excluded hP (fun s hs => (hf s hs).enlisting) fun s hs => (hf s hs).excluded

theorem Triple.modifyGet_apart {α : Type} {f : World → α × World} {P : World → Prop}
    (hP : Stable (Excluded m l o) P) (hf : ∀ s, P s → Apart m l s (f s).2) :
    Triple (enlistRules m l u id o) P (MonadStateOf.modifyGet f : Step α) fun _ => P :=
  (Triple.modifyGet (ρ := enlistRules m l u id o) fun s hs => (hf s hs).enlisting).post
    fun _ _ ⟨s, hs, _, hb⟩ => hP _ _ (hP _ _ hs (hf s hs).excluded) (World.Books.apart hb).excluded

/-- A change of the books alone keeps what the books keep. -/
theorem Triple.change_books {f : World → World} {P : World → Prop}
    (hP : ∀ s s', P s → World.Books l s s' → P s') (hf : ∀ s, P s → World.Books l s (f s)) :
    Triple (enlistRules m l u id o) P (Step.change f) fun _ => P :=
  (Triple.modify (ρ := enlistRules m l u id o) fun s hs => (hf s hs).apart.enlisting).post
    fun _ _ ⟨s, hs, hb⟩ => hP _ _ (hP _ _ hs (hf s hs)) hb

/-- Taking lock `l` under owner `o`, where the lock exists: afterwards `o` holds it. -/
theorem acquire_holding :
    Triple (enlistRules m l u id o) (fun s => s.owner = o ∧ l < s.locks.size ∧ Standing m l u s)
      (Step.acquire l) fun _ => Holding m l u o := by
  unfold Step.acquire
  refine Triple.bind (Triple.get_of_refl (enlistRules_local m l u id o).guar_refl) fun w => ?_
  dsimp only
  split
  · rename_i hfree
    -- the lock is free and nobody waits: it is taken at once, for the owner that runs
    have hnone : (w.lock l).holder = none := by
      simp only [Bool.and_eq_true, Option.isNone_iff_eq_none] at hfree
      exact hfree.1
    have htaken : ∀ s, (w.owner = o ∧ l < w.locks.size ∧ Standing m l u w) ∧ World.Books l w s →
        (((s.modifyLock l fun lk => { lk with holder := some s.owner }).hold (.lock l)).lock l).holder =
          some o := by
      rintro s ⟨⟨how, hl, -⟩, hb⟩
      rw [World.lock_hold, World.lock_modifyLock, if_pos ⟨rfl, Nat.lt_of_lt_of_le hl hb.locks⟩]
      exact congrArg some (hb.owner.trans how)
    refine (Triple.modify (ρ := enlistRules m l u id o) fun s hs => ?_).post ?_
    · have hu := (World.Untouched.modifyLock s l fun lk => { lk with holder := some s.owner }).trans
        (World.Untouched.hold _ (.lock l))
      refine ⟨.inr (.inl ⟨hs.2.holder.trans hnone, htaken s hs⟩), .inl ?_, .inl ?_,
        fun h => ?_, fun i => by rw [hu.unit i]⟩
      · exact (hu.manager m).symm ▸ List.Sublist.refl _
      · intro p hp
        rwa [hu.parties] at hp
      · unfold World.OnePerUnit
        rw [hu.manager m]
        exact h
    · rintro _ s' ⟨s, hs, hb⟩
      have hst : Standing m l u s := hs.1.2.2.apart hs.2.apart
      refine World.stable_holding _ _ ⟨htaken s hs, hst.untouched ?_⟩ (World.Books.apart hb).excluded
      exact (World.Untouched.modifyLock s l fun lk => { lk with holder := some s.owner }).trans
        (World.Untouched.hold _ (.lock l))
  · -- the lock is taken: `o` waits in line until it is handed to it
    refine (Triple.await _).post fun _ s hs => ?_
    obtain ⟨⟨s₀, ⟨⟨how, -, hst⟩, hb⟩, he⟩, hwoken⟩ := hs
    have hheld : (s.lock l).holder = some o := by
      have h := hwoken
      simp only [Rules.Woken, enlistRules, World.host, beq_iff_eq] at h
      rw [h, how]
    exact ⟨hheld, (hst.apart hb.apart).excluded he⟩

/-- Giving lock `l` back, or handing it on, while `o` holds it. -/
theorem unlock_standing :
    Triple (enlistRules m l u id o) (Holding m l u o) (Step.unlock l) fun _ => Standing m l u := by
  unfold Step.unlock
  refine (Triple.modify (ρ := enlistRules m l u id o) fun s hs => ?_).post ?_
  · have hu := (World.Untouched.unhold s (.lock l)).trans (World.Untouched.unlock _ l)
    refine ⟨.inr (.inr hs.held), .inl ?_, .inl ?_, fun h => ?_, fun i => by rw [hu.unit i]⟩
    · exact (hu.manager m).symm ▸ List.Sublist.refl _
    · intro p hp
      rwa [hu.parties] at hp
    · unfold World.OnePerUnit
      rw [hu.manager m]
      exact h
  · rintro _ s' ⟨s, hs, hb⟩
    have hu := (World.Untouched.unhold s (.lock l)).trans (World.Untouched.unlock _ l)
    exact (hs.standing.untouched hu).apart (World.Books.apart hb)

/-- Taking another lock keeps every fact a begin relies on. -/
theorem acquire_other {k : Nat} (hk : k ≠ l) {P : World → Prop} (hP : Stable (Excluded m l o) P) :
    Triple (enlistRules m l u id o) P (Step.acquire k) fun _ => P := by
  unfold Step.acquire
  refine Triple.bind (Triple.get_of_refl (enlistRules_local m l u id o).guar_refl) fun w => ?_
  dsimp only
  split
  · refine Triple.pre (Triple.change_apart hP fun s _ =>
      (Apart.modifyLock s hk _).trans (Apart.hold _ _)) ?_
    exact fun s hs => hP _ _ hs.1 (World.Books.apart hs.2).excluded
  · refine (Triple.await _).post fun _ s hs => ?_
    obtain ⟨⟨s₀, ⟨hw, hb⟩, he⟩, -⟩ := hs
    exact hP _ _ (hP _ _ hw (World.Books.apart hb).excluded) he

/-- Giving another lock back keeps every fact a begin relies on. -/
theorem unlock_other {k : Nat} (hk : k ≠ l) {P : World → Prop} (hP : Stable (Excluded m l o) P) :
    Triple (enlistRules m l u id o) P (Step.unlock k) fun _ => P :=
  Triple.change_apart hP fun s _ => (Apart.unhold s _).trans (Apart.unlock _ hk)

/-- A read changes nothing, so a begin keeps what it relies on. -/
theorem Triple.read_apart {P : World → Prop} (hP : Stable (Excluded m l o) P) :
    Triple (enlistRules m l u id o) P Step.read fun _ => P :=
  (Triple.get_of_refl (enlistRules_local m l u id o).guar_refl).post fun _ _ h =>
    hP _ _ h.1 (World.Books.apart h.2).excluded

/-- A party joins unit `u` while `o` holds the lock and nothing is registered for the unit:
the one kind of step that enlists. -/
theorem Triple.join_vacant {f : World → World} (hf : ∀ s, World.Joins s (f s)) :
    Triple (enlistRules m l u id o) (Vacant m l u id o) (Step.change f) fun _ =>
      Vacant m l u id o := by
  refine Triple.change_excluded World.stable_vacant (fun s hs => ?_) fun s _ => (hf s).excluded
  have hj := hf s
  refine ⟨.inl (hj.holder l), .inl ?_, .inr ⟨hs.holding.held, hs.vacant⟩, fun h => ?_, hj.unitLock⟩
  · exact (hj.manager m).symm ▸ List.Sublist.refl _
  · unfold World.OnePerUnit
    rw [hj.manager m]
    exact h

/-- Registering adapter `a` for the unit of identity `id'` while `o` holds the lock: the registry
keeps one adapter per unit. -/
theorem Triple.register_holding (id' : Uuid) (a : Nat) :
    Triple (enlistRules m l u id o) (Holding m l u o)
      (Step.change fun w => w.modifyManager m fun mg =>
        { mg with enlistments := (mg.enlistments.filter (·.1 != id')) ++ [(id', a)] })
      fun _ => Holding m l u o := by
  refine (Triple.modify (ρ := enlistRules m l u id o) fun s hs => ?_).post ?_
  · exact ⟨.inl rfl, .inr hs.held, .inl fun _ hp => hp, fun h => h.register id' a, fun _ => rfl⟩
  · rintro _ s' ⟨s, hs, hb⟩
    refine World.stable_holding _ _ ?_ (World.Books.apart hb).excluded
    exact ⟨hs.held, hs.standing.onePerUnit.register id' a, hs.standing.unitLock⟩

end Steps

/-! ## Enlisting under the lock -/

namespace Ambient

variable {m l : Nat} {u : UnitRef} {id : Uuid} {o : Nat}

open World (Apart Excluded Joins Vacant)

/-- Enlisting in local unit `i`: the party joins under the unit's own lock, which is not the
manager's, so the manager's lock stays with `o` and nothing gets registered. -/
theorem enlistLocal_vacant {i : Nat} (hu : u = .local i) (p : Party) (singlePhase : Bool) :
    Triple (enlistRules m l u id o) (Vacant m l u id o) (enlistLocal i p singlePhase).run
      fun _ => Vacant m l u id o := by
  unfold enlistLocal
  refine Triple.run_get_bind_of_refl (enlistRules_local m l u id o).guar_refl fun w hw => ?_
  have hk : (w.unit i).lock ≠ l := hw.holding.standing.unitLock i hu
  refine Triple.pre ?_ fun s hs => World.stable_vacant _ _ hs.1 (World.Books.apart hs.2).excluded
  extract_lets x jp
  have hjp : ∀ v, Triple (enlistRules m l u id o) (Vacant m l u id o) (jp v).run
      fun _ => Vacant m l u id o := by
    intro v
    refine Triple.run_liftM_bind (acquire_other hk World.stable_vacant) fun _ => ?_
    refine Triple.run_andThen (fun _ => Vacant m l u id o) ?_ fun _ =>
      unlock_other hk World.stable_vacant
    refine Triple.run_liftM_bind (Triple.read_apart World.stable_vacant) fun w' => ?_
    dsimp only
    split
    · exact Triple.run_pure fun _ h => h
    refine Triple.run_liftM_bind (Triple.join_vacant fun s => Joins.modifyUnit s i fun _ => rfl)
      fun _ => ?_
    split
    · exact Triple.run_liftM_bind (Triple.read_apart World.stable_vacant) fun _ =>
        (promoteAll_aside i _).enlisting (fun _ _ h => h.apart) World.stable_vacant
    · exact Triple.run_pure fun _ h => h
  split
  · exact Triple.run_throw_bind fun _ h => h
  · exact hjp ()

/-- Enlisting in manual unit `i`: the host logs it, then either fails or takes the adapter. -/
theorem enlistManual_vacant (i a : Nat) (singlePhase : Bool) :
    Triple (enlistRules m l u id o) (Vacant m l u id o) (enlistManual i a singlePhase).run
      fun _ => Vacant m l u id o := by
  unfold enlistManual
  refine Triple.run_liftM_bind (Triple.change_apart World.stable_vacant fun s _ =>
    Apart.of_handleMove (HandleMove.note (H := fun _ => True) s _)) fun _ => ?_
  refine Triple.run_liftM_bind (Triple.read_apart World.stable_vacant) fun w => ?_
  split
  · exact Triple.run_liftM_bind (Triple.change_apart World.stable_vacant fun s _ =>
      Apart.modifyManualUnit s i fun _ => rfl) fun _ => Triple.run_throw fun _ h => h
  · exact Triple.run_liftM (Triple.join_vacant fun s => Joins.modifyManualUnit s i _)

/-- Enlisting in unit `u` keeps the lock with `o` and registers nothing. -/
theorem enlistIn_vacant (a : Nat) (singlePhase : Bool) :
    Triple (enlistRules m l u id o) (Vacant m l u id o) (enlistIn u a singlePhase).run
      fun _ => Vacant m l u id o := by
  cases u with
  | «local» i => exact enlistLocal_vacant rfl (.adapter a) singlePhase
  | manual i => exact enlistManual_vacant i a singlePhase

end Ambient

/-! ## Beginning under the rules -/

namespace Manager

variable {m l : Nat} {u : UnitRef} {id : Uuid} {o : Nat}

open Transaction Ambient
open World (Apart Excluded Standing Holding Vacant Ready Entry)

/-- Making the enlisted handle of unit `u` while `o` holds the lock and nothing is registered
for the unit: the handle is made, the descriptor saved, the adapter enlisted and, last,
registered; a failure on the way registers nothing. -/
theorem enlistNew_holding (version : ServerVersion) (database : String) :
    Triple (enlistRules m l u id o) (Vacant m l u id o) (enlistNew m u id version database).run
      fun _ => Holding m l u o := by
  unfold enlistNew
  refine Triple.run_bind (fun _ => Vacant m l u id o)
    ((newHandle_frame m version database).aside.enlisting_aside World.stable_vacant) (fun h => ?_)
    fun _ _ hs => hs.holding
  refine Triple.run_get_bind_of_refl (enlistRules_local m l u id o).guar_refl fun w _ => ?_
  refine Triple.pre ?_ fun s hs => World.stable_vacant _ _ hs.1 (World.Books.apart hs.2).excluded
  refine Triple.run_attempt_bind ((storeSave_aside m _).enlisting_aside World.stable_vacant)
    fun r => ?_
  split
  · -- the descriptor could not be saved
    refine Triple.run_liftM_bind
      ((abandonLocally_frame h).aside.enlisting_aside World.stable_vacant) fun _ => ?_
    exact Triple.run_liftM_bind ((dropUnused_aside h).enlisting_aside World.stable_vacant)
      fun _ => Triple.run_throw fun _ hs => hs.holding
  refine Triple.run_liftM_bind (Triple.modifyGet_apart World.stable_vacant fun s _ =>
    (World.Aside.addAdapter s _).apart) fun a => ?_
  refine Triple.run_attempt_bind (enlistIn_vacant a true) fun r => ?_
  split
  · -- a failed enlistment rolls the handle back and forgets the descriptor
    extract_lets jp
    have hjp : ∀ v, Triple (enlistRules m l u id o) (Vacant m l u id o) (jp v).run
        fun _ => Holding m l u o := by
      intro v
      refine Triple.run_attempt_bind ((storeRemove_aside _ _ _).enlisting_aside World.stable_vacant)
        fun _ => ?_
      refine Triple.run_liftM_bind ((dropUnused_aside h).enlisting_aside World.stable_vacant)
        fun _ => ?_
      split <;> exact Triple.run_throw fun _ hs => hs.holding
    refine Triple.run_liftM_bind
      ((abandonLocally_frame h).aside.enlisting_aside World.stable_vacant) fun _ => ?_
    refine Triple.run_liftM_bind (Triple.read_apart World.stable_vacant) fun _ => ?_
    split
    · exact Triple.run_attempt_bind
        ((rollback_frame h).aside.enlisting_aside World.stable_vacant) fun _ => hjp ()
    · exact hjp ()
  · -- the adapter is registered for the unit, still under the lock
    refine Triple.run_liftM_bind ((Triple.register_holding id a).pre fun _ hs => hs.holding)
      fun _ => ?_
    exact Triple.run_pure fun _ hs => hs

/-- The handle of unit `u` is found, or made and enlisted, under the lock, which is given back
at the end. -/
theorem enlistedHandle_standing (version : ServerVersion) (database : String)
    (requested : Option String) :
    Triple (enlistRules m l u id o) (Ready m l u id o)
      (enlistedHandle m u version database requested).run fun _ => Standing m l u := by
  unfold enlistedHandle
  refine Triple.run_get_bind_of_refl (enlistRules_local m l u id o).guar_refl fun w hw => ?_
  dsimp only
  rw [hw.lock, hw.unitId]
  refine Triple.run_liftM_bind (acquire_holding.pre fun s hs =>
    have hr := hs.1.books hs.2
    ⟨hr.owner, hr.lockExists, hr.standing⟩) fun _ => ?_
  refine Triple.run_andThen (fun _ => Holding m l u o) ?_ fun _ => unlock_standing
  refine Triple.run_liftM_bind ((prune_aside m).enlisting_aside World.stable_holding) fun _ => ?_
  refine Triple.run_get_bind_of_refl (enlistRules_local m l u id o).guar_refl fun w' _ => ?_
  have hheld : ∀ s, Holding m l u o w' ∧ World.Books l w' s → Holding m l u o s :=
    fun s hs => World.stable_holding _ _ hs.1 (World.Books.apart hs.2).excluded
  split
  · -- registered already: the adapter's handle, if it is still open
    split
    · exact Triple.run_throw_bind fun s hs => hheld s hs
    · exact Triple.run_ofExcept_bind (fun _ _ => Triple.run_pure fun s hs => hheld s hs)
        fun _ _ s hs => hheld s hs
  · rename_i hnone
    exact (enlistNew_holding version database).pre fun s hs =>
      ⟨hheld s hs, by rw [hs.2.enlistments m]; exact hnone⟩

/-- Finding the stack of running code is a step of the books. -/
theorem contextOf_books {P : World → Prop} (hP : ∀ s s', P s → World.Books l s s' → P s') :
    Triple (enlistRules m l u id o) P (contextOf m) fun _ => P := by
  unfold contextOf
  refine Triple.bind (Triple.get_of_refl (enlistRules_local m l u id o).guar_refl) fun w => ?_
  have hw : ∀ s, P w ∧ World.Books l w s → P s := fun s h => hP _ _ h.1 h.2
  split
  · exact Triple.pure_of hw
  · split
    · exact Triple.pure_of hw
    · split
      · exact Triple.pure_of hw
      · -- a new, empty stack, noted for the task
        refine (Triple.modifyGet (ρ := enlistRules m l u id o) ?_).post ?_
        · exact fun s _ => (World.Books.stackFor s m _).apart.enlisting
        rintro _ s' ⟨s, hs, -, hb⟩
        exact hP _ _ (hP _ _ (hw s hs) (World.Books.stackFor s m _)) hb

/-- Holding a unit of work is a step of the books. -/
theorem holdUnit_books {P : World → Prop} (hP : ∀ s s', P s → World.Books l s s' → P s') :
    Triple (enlistRules m l u id o) P (Step.holdUnit u) fun _ => P := by
  unfold Step.holdUnit
  exact Triple.change_books hP fun s _ => World.Books.holdUnit s u

/-- A joining scope shares a handle, takes the one enlisted in its unit of work, or gets a new
one; only the unit of work `u` is ever enlisted in. -/
theorem joinHandle_standing (version : ServerVersion) (database : String)
    (requested : Option String) (parent top : Option Nat) :
    Triple (enlistRules m l u id o) (Entry m l u id o)
      (joinHandle m version database requested parent top).run fun _ => Standing m l u := by
  unfold joinHandle
  refine Triple.run_get_bind_of_refl (enlistRules_local m l u id o).guar_refl fun w hw => ?_
  refine Triple.pre ?_ fun s hs => hs.1.books hs.2
  dsimp only
  split
  · exact Triple.run_ofExcept_bind (fun _ _ => Triple.run_pure fun _ hs => hs.ready.standing)
      fun _ _ _ hs => hs.ready.standing
  · split
    · rename_i u' hu'
      -- the unit of work the code would join is `u`
      rw [hw.unit _ _ hu']
      refine Triple.run_liftM_bind (holdUnit_books fun _ _ h hb => h.books hb) fun _ => ?_
      refine Triple.run_bind (fun _ => Standing m l u) ?_ (fun _ => Triple.run_pure fun _ h => h)
        fun _ _ h => h
      refine Triple.run_andThen (fun _ => Standing m l u)
        ((enlistedHandle_standing version database requested).pre fun _ hs => hs.ready) fun _ => ?_
      unfold Step.letGoUnit
      exact Triple.change_apart World.stable_standing fun s _ =>
        (Apart.unhold s _).trans (Apart.letGoUnit _ u)
    · refine Triple.run_bind (fun _ => Standing m l u)
        (((newHandle_frame m version database).aside.enlisting_aside World.stable_standing).pre
          fun _ hs => hs.ready.standing) (fun _ => Triple.run_pure fun _ h => h) fun _ _ h => h

/-- A begin of manager `m` under owner `o`, whose unit of work, if any, is `u`, keeps to the
rules of a begin and keeps one adapter per unit. -/
theorem beginTransaction_standing (option : ScopeOption) (parent : Option Nat)
    (requested : Option String) :
    Triple (enlistRules m l u id o) (Entry m l u id o)
      (beginTransaction m option parent requested).run fun _ => Standing m l u := by
  unfold beginTransaction
  refine Triple.run_get_bind_of_refl (enlistRules_local m l u id o).guar_refl fun w hw => ?_
  refine Triple.pre ?_ fun s hs => hs.1.books hs.2
  extract_lets jpVersion
  have hVersion : ∀ v, Triple (enlistRules m l u id o) (Entry m l u id o) (jpVersion v).run
      fun _ => Standing m l u := by
    intro v
    simp -zeta only [jpVersion]
    extract_lets jpTail jpChecked
    have hTail : Triple (enlistRules m l u id o) (Entry m l u id o) (jpTail ()).run
        fun _ => Standing m l u := by
      simp -zeta only [jpTail]
      refine Triple.run_liftM_bind (contextOf_books fun _ _ h hb => h.books hb) fun ctx => ?_
      refine Triple.run_get_bind_of_refl (enlistRules_local m l u id o).guar_refl fun w' _ => ?_
      refine Triple.pre ?_ fun s hs => hs.1.books hs.2
      extract_lets top database jpPush
      -- the record is pushed and put on the stack; neither touches the enlistment
      have hPush : ∀ x, Triple (enlistRules m l u id o) (Standing m l u) (jpPush x).run
          fun _ => Standing m l u := by
        rintro ⟨handle, owner, enlisted⟩
        refine Triple.run_liftM_bind (Triple.modifyGet_apart World.stable_standing fun s _ =>
          World.Untouched.apart ⟨rfl, rfl, rfl⟩ rfl) fun _ => ?_
        refine Triple.run_liftM_bind (Triple.change_apart World.stable_standing fun s _ =>
          World.Untouched.apart ⟨rfl, rfl, rfl⟩ rfl) fun _ => ?_
        exact Triple.run_pure fun _ h => h
      cases option with
      | suppress => exact Triple.run_pure_bind ((hPush _).pre fun _ hs => hs.ready.standing)
      | requiresNew =>
        exact Triple.run_bind (fun _ => Standing m l u)
          (((newHandle_frame m v database).aside.enlisting_aside World.stable_standing).pre
            fun _ hs => hs.ready.standing) (fun _ => Triple.run_pure_bind (hPush _)) fun _ _ h => h
      | join =>
        exact Triple.run_bind (fun _ => Standing m l u)
          (joinHandle_standing v database requested parent top) (fun _ => hPush _) fun _ _ h => h
    have hChecked : Triple (enlistRules m l u id o) (Entry m l u id o) (jpChecked ()).run
        fun _ => Standing m l u := by
      simp -zeta only [jpChecked]
      split
      · split
        · exact Triple.run_throw_bind fun _ hs => hs.ready.standing
        · exact hTail
      · exact hTail
    split
    · exact Triple.run_throw_bind fun _ hs => hs.ready.standing
    · exact hChecked
  split
  · exact Triple.run_pure_bind (hVersion _)
  · exact Triple.run_throw_bind fun _ hs => hs.ready.standing

end Manager

end TxnCoord
