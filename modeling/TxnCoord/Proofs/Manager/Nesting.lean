import TxnCoord.Proofs.Fiber.Schedule
import TxnCoord.Proofs.Manager.Footprint
/-!
# The nesting policy

Which handle a new scope gets follows from its option, the parent it names, the innermost
scope of its stack and the coordinator's current unit of work (`Manager.nesting`):

* a suppressed scope gets none;
* a scope that requires a new transaction gets a handle made for it, which it owns;
* a joining scope shares an open parent it names, not enlisted; naming none, it shares the
  open handle of the innermost scope, enlisted as that scope is;
* otherwise a joining scope inside a suppressed one gets a handle of its own; outside one it
  gets the handle enlisted for the current unit of work, or, with no unit, a handle of its
  own.

Beginning a scope waits only on the way to a unit's handle: for the enlistment lock, for
what `prune` rolls back, and while the unit takes the enlistment. So the choice is made in the
world the call starts in, up to the scheduler's books and a new empty stack (`World.Calm`).
While it waits, other tasks only add handles and enlistments, and these keep their databases
and their handles (`World.Grows`).

Main statement: from any world `s₀`, a scope that begins gets the record the policy gives in
`s₀`, on the database it asked for. A join that would share a handle on another database fails
as invalid.

    Triple nestRules (· = s₀) (beginTransaction m option parent requested).run
      (Begins s₀ m option parent requested)                        (beginTransaction_nests)
-/

namespace TxnCoord

open World (HandleMove Move Kept)

/-! ## What the world keeps while a scope begins -/

namespace World

/-- How the world may change while a scope waits to begin. Handles, enlistments and managers
are only added. Every handle keeps its identity, database and link, and every enlistment its
handle. -/
structure Grows (s s' : World) : Prop where
  handles : s.handles.size ≤ s'.handles.size
  handle : ∀ h < s.handles.size, Kept (s.handle h) (s'.handle h)
  adapters : s.adapters.size ≤ s'.adapters.size
  adapter : ∀ a < s.adapters.size, (s'.adapter a).handle = (s.adapter a).handle
  managers : s.managers.size ≤ s'.managers.size

namespace Grows

theorem refl (s : World) : Grows s s :=
  ⟨Nat.le_refl _, fun _ _ => Kept.refl _, Nat.le_refl _, fun _ _ => rfl, Nat.le_refl _⟩

theorem trans {a b c : World} (h₁ : Grows a b) (h₂ : Grows b c) : Grows a c where
  handles := Nat.le_trans h₁.handles h₂.handles
  handle h hh := (h₁.handle h hh).trans (h₂.handle h (Nat.lt_of_lt_of_le hh h₁.handles))
  adapters := Nat.le_trans h₁.adapters h₂.adapters
  adapter i hi := (h₂.adapter i (Nat.lt_of_lt_of_le hi h₁.adapters)).trans (h₁.adapter i hi)
  managers := Nat.le_trans h₁.managers h₂.managers

/-- A change that leaves the handles, the enlistments and the number of managers alone. -/
theorem of_eq {s s' : World} (hh : s'.handles = s.handles) (ha : s'.adapters = s.adapters)
    (hm : s'.managers.size = s.managers.size) : Grows s s' where
  handles := Nat.le_of_eq (congrArg Array.size hh).symm
  handle h _ := by
    rw [show s'.handle h = s.handle h by simp only [World.handle, hh]]
    exact Kept.refl _
  adapters := Nat.le_of_eq (congrArg Array.size ha).symm
  adapter i _ := by simp only [World.adapter, ha]
  managers := Nat.le_of_eq hm.symm

theorem modifyHandle (s : World) (i : Nat) {g : Handle → Handle} (hg : ∀ hd, Kept hd (g hd)) :
    Grows s (s.modifyHandle i g) where
  handles := by simp [World.modifyHandle]
  handle h _ := handle_rel_modifyHandle Kept Kept.refl s i g (hg _) h
  adapters := Nat.le_refl _
  adapter _ _ := rfl
  managers := Nat.le_refl _

theorem pushHandle (s : World) (hd : Handle) : Grows s { s with handles := s.handles.push hd } where
  handles := by simp
  handle h hh := by
    rw [show ({ s with handles := s.handles.push hd } : World).handle h = s.handle h by
      simp only [World.handle, Array.getElem?_push_lt hh, Array.getElem?_eq_getElem hh]]
    exact Kept.refl _
  adapters := Nat.le_refl _
  adapter _ _ := rfl
  managers := Nat.le_refl _

theorem pushAdapter (s : World) (ad : Adapter) :
    Grows s { s with adapters := s.adapters.push ad } where
  handles := Nat.le_refl _
  handle _ _ := Kept.refl _
  adapters := by simp
  adapter i hi := by
    simp only [World.adapter, Array.getElem?_push_lt hi, Array.getElem?_eq_getElem hi]
  managers := Nat.le_refl _

theorem modifyAdapter (s : World) (i : Nat) {g : Adapter → Adapter}
    (hg : ∀ ad, (g ad).handle = ad.handle) : Grows s (s.modifyAdapter i g) where
  handles := Nat.le_refl _
  handle _ _ := Kept.refl _
  adapters := by simp [World.modifyAdapter]
  adapter j _ := by
    simp only [World.adapter, World.modifyAdapter, Array.getElem?_modify]
    split
    · cases s.adapters[j]? <;> simp [hg]
    · rfl
  managers := Nat.le_refl _

theorem modifyManager (s : World) (i : Nat) (g : Manager → Manager) :
    Grows s (s.modifyManager i g) :=
  of_eq rfl rfl (by simp [World.modifyManager])

end Grows

/-- Every change the coordinator's code makes outside the scope records only adds handles and
enlistments, and keeps what they keep. -/
theorem Move.grows {s s' : World} (h : Move s s') : Grows s s' := by
  induction h with
  | handles h =>
    induction h with
    | refl s => exact .refl s
    | trans _ _ ih₁ ih₂ => exact ih₁.trans ih₂
    | handle s g _ hg => exact .modifyHandle s _ hg
    | add s hd => exact .pushHandle s hd
    | holds s hl => exact .of_eq rfl rfl rfl
    | wakes s wk => exact .of_eq rfl rfl rfl
    | peers s pr => exact .of_eq rfl rfl rfl
    | log s lg => exact .of_eq rfl rfl rfl
  | trans _ _ ih₁ ih₂ => exact ih₁.trans ih₂
  | locks s lk => exact .of_eq rfl rfl rfl
  | units s us => exact .of_eq rfl rfl rfl
  | manualUnits s us => exact .of_eq rfl rfl rfl
  | ledger s l => exact .of_eq rfl rfl rfl
  | sharedLedger s l => exact .of_eq rfl rfl rfl
  | manager s i g _ => exact .modifyManager s i g
  | addAdapter s ad => exact .pushAdapter s ad
  | promote s a => exact .modifyAdapter s a fun _ => rfl
  | context s => exact .of_eq rfl rfl rfl

/-- What the scheduler's books, finding one's stack and holding a unit leave alone: the scope
records and every stack (a new one is empty), each handle's state and what it keeps for life,
the managers but for the stacks they keep per task, the enlistments, the units' identities and
the coordinator's current unit. -/
structure Calm (s s' : World) : Prop where
  records : s'.records = s.records
  context : ∀ c, s'.context c = s.context c
  handles : s'.handles.size = s.handles.size
  handle : ∀ h, (s'.handle h).state = (s.handle h).state ∧ Kept (s.handle h) (s'.handle h)
  managers : s'.managers.size = s.managers.size
  manager : ∀ i, { s'.manager i with byTask := (s.manager i).byTask } = s.manager i
  adapters : s'.adapters = s.adapters
  unitId : ∀ u, s'.unitId u = s.unitId u
  current : s'.current = s.current
  manualMode : s'.manualMode = s.manualMode
  manualCurrent : s'.manualCurrent = s.manualCurrent

namespace Calm

theorem refl (s : World) : Calm s s :=
  ⟨rfl, fun _ => rfl, rfl, fun _ => ⟨rfl, Kept.refl _⟩, rfl, fun _ => rfl, rfl, fun _ => rfl,
    rfl, rfl, rfl⟩

theorem trans {a b c : World} (h₁ : Calm a b) (h₂ : Calm b c) : Calm a c where
  records := h₂.records.trans h₁.records
  context x := (h₂.context x).trans (h₁.context x)
  handles := h₂.handles.trans h₁.handles
  handle h := ⟨(h₂.handle h).1.trans (h₁.handle h).1, (h₁.handle h).2.trans (h₂.handle h).2⟩
  managers := h₂.managers.trans h₁.managers
  manager i := calc
    { c.manager i with byTask := (a.manager i).byTask }
        = { { c.manager i with byTask := (b.manager i).byTask } with
            byTask := (a.manager i).byTask } := rfl
    _ = a.manager i := by rw [h₂.manager i]; exact h₁.manager i
  adapters := h₂.adapters.trans h₁.adapters
  unitId u := (h₂.unitId u).trans (h₁.unitId u)
  current := h₂.current.trans h₁.current
  manualMode := h₂.manualMode.trans h₁.manualMode
  manualCurrent := h₂.manualCurrent.trans h₁.manualCurrent

theorem grows {s s' : World} (h : Calm s s') : Grows s s' where
  handles := Nat.le_of_eq h.handles.symm
  handle i _ := (h.handle i).2
  adapters := Nat.le_of_eq (congrArg Array.size h.adapters).symm
  adapter i _ := by simp only [World.adapter, h.adapters]
  managers := Nat.le_of_eq h.managers.symm

/-- A change of the scheduler's books alone: who runs, what owners hold and wait for, the
locks, and when. -/
theorem books (s : World) (now task owner nextOwner : Nat) (wakes : List Nat)
    (holds : List (Nat × Hold)) (locks : Array Lock)
    (overrides : List (Nat × List (List (Nat × Nat)))) :
    Calm s { s with now, task, owner, nextOwner, wakes, holds, locks, overrides } :=
  ⟨rfl, fun _ => rfl, rfl, fun _ => ⟨rfl, Kept.refl _⟩, rfl, fun _ => rfl, rfl, fun _ => rfl,
    rfl, rfl, rfl⟩

/-- A change of one handle that keeps its state and what it keeps for life. -/
theorem modifyHandle (s : World) (i : Nat) {g : Handle → Handle}
    (hg : ∀ hd, (g hd).state = hd.state ∧ Kept hd (g hd)) : Calm s (s.modifyHandle i g) :=
  ⟨rfl, fun _ => rfl, by simp [World.modifyHandle],
    handle_rel_modifyHandle (fun hd hd' => hd'.state = hd.state ∧ Kept hd hd')
      (fun _ => ⟨rfl, Kept.refl _⟩) s i g (hg _),
    rfl, fun _ => rfl, rfl, fun _ => rfl, rfl, rfl, rfl⟩

/-- A change of a local unit that keeps its identity. -/
theorem modifyUnit (s : World) (i : Nat) {f : LocalUnit → LocalUnit}
    (hf : ∀ x, (f x).id = x.id) : Calm s (s.modifyUnit i f) := by
  refine ⟨rfl, fun _ => rfl, rfl, fun _ => ⟨rfl, Kept.refl _⟩, rfl, fun _ => rfl, rfl, ?_, rfl,
    rfl, rfl⟩
  intro u
  cases u with
  | manual j => rfl
  | «local» j =>
    simp only [World.unitId, World.unit, World.modifyUnit, Array.getElem?_modify]
    split
    · cases s.units[j]? <;> simp [hf]
    · rfl

theorem modifyManualUnit (s : World) (i : Nat) {f : ManualUnit → ManualUnit}
    (hf : ∀ x, (f x).id = x.id) : Calm s (s.modifyManualUnit i f) := by
  refine ⟨rfl, fun _ => rfl, rfl, fun _ => ⟨rfl, Kept.refl _⟩, rfl, fun _ => rfl, rfl, ?_, rfl,
    rfl, rfl⟩
  intro u
  cases u with
  | «local» j => rfl
  | manual j =>
    simp only [World.unitId, World.manualUnit, World.modifyManualUnit, Array.getElem?_modify]
    split
    · cases s.manualUnits[j]? <;> simp [hf]
    · rfl

theorem unhold (s : World) (x : Hold) : Calm s (s.unhold x) := by
  unfold World.unhold
  split
  · exact books s _ _ _ _ _ _ _ _
  · split
    · exact books s _ _ _ _ _ _ _ _
    · exact refl s

theorem unlock (s : World) (m : Nat) : Calm s (s.unlock m) := by
  unfold World.unlock
  split <;> exact books s _ _ _ _ _ _ _ _

theorem letGoUnit (s : World) (u : UnitRef) : Calm s (s.letGoUnit u) := by
  cases u with
  | «local» i => exact modifyUnit s i fun _ => rfl
  | manual i => exact modifyManualUnit s i fun _ => rfl

/-- Finding the stack of running code may make an empty one and note it for the task. -/
theorem stackFor (s : World) (m : Nat) (b : Manager → List (Nat × Nat)) :
    Calm s (s.newContext.2.modifyManager m fun mg => { mg with byTask := b mg }) := by
  refine ⟨rfl, fun c => SameScopes.newContext s |>.context c, rfl, fun _ => ⟨rfl, Kept.refl _⟩,
    by simp [World.modifyManager, World.newContext], fun i => ?_, rfl, fun _ => rfl, rfl, rfl,
    rfl⟩
  simp only [World.manager, World.modifyManager, World.newContext, Array.getElem?_modify]
  split
  · cases s.managers[i]? <;> rfl
  · rfl

theorem topOf {s s' : World} (h : Calm s s') (ctx : Nat) :
    Manager.topOf s' ctx = Manager.topOf s ctx := by
  simp only [Manager.topOf, h.context]

theorem record {s s' : World} (h : Calm s s') (r : Nat) : s'.record r = s.record r := by
  simp only [World.record, h.records]

theorem isOpen {s s' : World} (h : Calm s s') (i : Nat) :
    (s'.handle i).isOpen = (s.handle i).isOpen := by
  simp only [Handle.isOpen, (h.handle i).1]

theorem ambientUnit {s s' : World} (h : Calm s s') (m : Nat) (b : Bool) :
    Manager.ambientUnit s' m b = Manager.ambientUnit s m b := by
  have hamb : (s'.manager m).ambient = (s.manager m).ambient := by
    have := congrArg Manager.ambient (h.manager m)
    exact this
  simp only [Manager.ambientUnit, hamb, h.current, h.manualMode, h.manualCurrent]

end Calm

/-- The enlistments, the adapters and the handles' databases are as they were. -/
structure SameRegistry (s s' : World) : Prop where
  enlistments : ∀ i, (s'.manager i).enlistments = (s.manager i).enlistments
  adapters : s'.adapters = s.adapters
  database : ∀ h, (s'.handle h).database = (s.handle h).database

theorem SameRegistry.of_eq {s s' : World} (hm : s'.managers = s.managers)
    (ha : s'.adapters = s.adapters) (hh : s'.handles = s.handles) : SameRegistry s s' :=
  ⟨fun _ => by simp only [World.manager, hm], ha, fun _ => by simp only [World.handle, hh]⟩

theorem Calm.sameRegistry {s s' : World} (h : Calm s s') : SameRegistry s s' :=
  ⟨fun i => by have := congrArg Manager.enlistments (h.manager i); exact this, h.adapters,
    fun i => (h.handle i).2.database⟩

theorem SameRegistry.trans {a b c : World} (h₁ : SameRegistry a b) (h₂ : SameRegistry b c) :
    SameRegistry a c :=
  ⟨fun i => (h₂.enlistments i).trans (h₁.enlistments i), h₂.adapters.trans h₁.adapters,
    fun i => (h₂.database i).trans (h₁.database i)⟩

end World

/-! ## Rules of a scope that begins -/

/-- A beginning scope and everything around it only add handles and enlistments, and the
scheduler's books leave the choice of a handle alone. -/
def nestRules : Rules World Cond := ⟨World.Grows, World.Calm, World.Grows, fun _ _ => True⟩

theorem nestRules_lawful : nestRules.Lawful where
  rely_refl := World.Grows.refl
  rely_trans _ _ _ := World.Grows.trans
  sched_refl := World.Calm.refl
  sched_trans _ _ _ := World.Calm.trans
  guar_refl := World.Grows.refl
  sched_rely _ _ h := h.grows
  guar_rely _ _ h := h

/-- The scheduler keeps to the rules of a beginning scope. -/
theorem World.host_keeps_nestRules : World.host.Keeps nestRules where
  listen c t s := by
    cases c with
    | turn h n =>
      refine World.Calm.modifyHandle s h fun hd => ?_
      split
      · exact ⟨rfl, World.Kept.refl _⟩
      · exact ⟨rfl, rfl, rfl, rfl⟩
    | granted m o => exact World.Calm.books s _ _ _ _ _ _ _ _
  forget t s := by
    refine ⟨rfl, fun _ => rfl, by simp [World.host], fun h => ?_, rfl, fun _ => rfl, rfl,
      fun _ => rfl, rfl, rfl, rfl⟩
    simp only [World.host, World.handle, Array.getElem?_map]
    cases s.handles[h]? with
    | none => exact ⟨rfl, World.Kept.refl _⟩
    | some hd => exact ⟨rfl, rfl, rfl, rfl⟩
  release o s := (Move.releaseOwner s o).grows
  takeWakes s := World.Calm.books s _ _ _ _ _ _ _ _
  fresh s := World.Calm.books s _ _ _ _ _ _ _ _
  enter t o n s := World.Calm.books s _ _ _ _ _ _ _ _
  spawned p c s := by
    simp only [World.host]
    split
    · exact World.Calm.books s _ _ _ _ _ _ _ _
    · exact World.Calm.refl s
  holds _ _ _ := trivial

/-- Code that makes only the coordinator's changes keeps every fact that growth keeps. -/
theorem KeepsFrame.grows {α : Type} {x : Step α} (h : KeepsFrame Move x) {P : World → Prop}
    (hP : Stable World.Grows P) : Triple nestRules P x fun _ => P :=
  h.triple nestRules_lawful (fun _ _ hm => hm.grows) hP

theorem stable_grows (s₀ : World) : Stable World.Grows (World.Grows s₀) :=
  fun _ _ h₁ h₂ => h₁.trans h₂

theorem stable_trivial : Stable World.Grows fun _ => True := fun _ _ _ _ => trivial

/-- A change of the books alone keeps what the books keep. -/
theorem Triple.change_calm {f : World → World} (hf : ∀ s, World.Calm s (f s)) {Q : World → Prop}
    (hQ : Stable World.SameRegistry Q) : Triple nestRules Q (Step.change f) fun _ => Q :=
  (Triple.modify fun s _ => (hf s).grows).post fun _ _ ⟨s, hs, hsched⟩ =>
    hQ _ _ (hQ _ _ hs (hf s).sameRegistry) hsched.sameRegistry

/-! ## The policy -/

/-- The handle a new scope gets. -/
inductive Nesting where
  /-- No handle: the scope runs with no transaction. -/
  | suppressed
  /-- A handle made for the scope, which it owns. -/
  | fresh
  /-- Handle `h` of the code around, shared and enlisted or not. -/
  | shares (h : Nat) (enlisted : Bool)
  /-- The handle enlisted for unit of work `u`. -/
  | unit (u : UnitRef)

/-- A scope's handle, ownership and enlistment, seen in `s` for a scope begun in `s₀`, are
those that plan `n` gives. A handle made for the scope did not exist in `s₀`. The handle of a
unit is the one manager `m` has enlisted for the unit's identity. -/
def Nesting.Describes (s₀ s : World) (m : Nat) :
    Nesting → Option Nat → Bool → Bool → Prop
  | .suppressed, handle, owner, enlisted => handle = none ∧ owner = false ∧ enlisted = false
  | .fresh, handle, owner, enlisted =>
    ∃ h, handle = some h ∧ s₀.handles.size ≤ h ∧ owner = true ∧ enlisted = false
  | .shares h e, handle, owner, enlisted => handle = some h ∧ owner = false ∧ enlisted = e
  | .unit u, handle, owner, enlisted =>
    ∃ a, (s.manager m).enlistments.lookup (s₀.unitId u) = some a ∧
      handle = some (s.adapter a).handle ∧ owner = false ∧ enlisted = true


/-- What a plan says of a scope rests only on the enlistments and the adapters. -/
theorem Nesting.Describes.registry {s₀ s s' : World} {m : Nat} {n : Nesting}
    {handle : Option Nat} {owner enlisted : Bool} (h : n.Describes s₀ s m handle owner enlisted)
    (hr : World.SameRegistry s s') : n.Describes s₀ s' m handle owner enlisted := by
  cases n with
  | unit u =>
    obtain ⟨a, hl, ha, ho, he⟩ := h
    refine ⟨a, by rw [hr.enlistments]; exact hl, ?_, ho, he⟩
    simp only [World.adapter, hr.adapters]
    exact ha
  | suppressed | fresh | shares => exact h

/-- Under every plan, a scope that owns its handle has one, and an enlisted scope owns none. -/
theorem Nesting.Describes.owner_enlisted {s₀ s : World} {m : Nat} {n : Nesting}
    {handle : Option Nat} {owner enlisted : Bool} (h : n.Describes s₀ s m handle owner enlisted) :
    (owner = true → handle.isSome = true) ∧ (enlisted = true → owner = false) := by
  cases n with
  | suppressed => obtain ⟨rfl, rfl, rfl⟩ := h; simp
  | fresh => obtain ⟨h, rfl, -, rfl, rfl⟩ := h; simp
  | shares => obtain ⟨rfl, rfl, rfl⟩ := h; simp
  | unit => obtain ⟨a, -, rfl, rfl, rfl⟩ := h; simp

/-- Every scope on a stack, and every enlistment a manager reads from its registry, names a
handle that exists. -/
structure World.Anchored (s : World) : Prop where
  stacked : ∀ c, ∀ r ∈ (s.context c).records, ∀ h ∈ (s.record r).handle, h < s.handles.size
  enlisted : ∀ i id a, (s.manager i).enlistments.lookup id = some a →
    (s.adapter a).handle < s.handles.size

/-- A handle made for a scope is none that a stack or a registry named when the scope began. -/
theorem Nesting.Describes.fresh_unnamed {s₀ s : World} {m : Nat} {handle : Option Nat}
    {owner enlisted : Bool} (hA : s₀.Anchored)
    (h : Nesting.fresh.Describes s₀ s m handle owner enlisted) :
    (∀ c, ∀ r ∈ (s₀.context c).records, (s₀.record r).handle ≠ handle) ∧
      ∀ i id a, (s₀.manager i).enlistments.lookup id = some a →
        handle ≠ some (s₀.adapter a).handle := by
  obtain ⟨h, rfl, hnew, -, -⟩ := h
  refine ⟨fun c r hr heq => ?_, fun i id a hl heq => ?_⟩
  · have hlt := hA.stacked c r hr h (by rw [heq]; rfl)
    omega
  · have hlt := hA.enlisted i id a hl
    cases heq
    omega

namespace Manager

open Transaction Ambient

/-- The handle a joining scope may share: an open parent it names; naming none, the open
handle of the innermost scope, enlisted as that scope is. -/
def offered (w : World) (parent top : Option Nat) : Option (Nat × Bool) :=
  match parent with
  | some p => if (w.handle p).isOpen then some (p, false) else none
  | none => top.bind fun t => (w.record t).handle.bind fun h =>
      if (w.handle h).isOpen then some (h, (w.record t).enlisted) else none

/-- The nesting policy: the handle of a scope begun with `option` on manager `m`, naming
`parent`, on a stack whose innermost record is `top`, in world `w`. -/
def nesting (w : World) (m : Nat) (option : ScopeOption) (parent top : Option Nat) : Nesting :=
  match option with
  | .suppress => .suppressed
  | .requiresNew => .fresh
  | .join =>
    match offered w parent top with
    | some (h, enlisted) => .shares h enlisted
    | none =>
      -- inside a suppressed scope the unit of work is out of reach
      if top.any fun t => (w.record t).handle.isNone then .fresh
      else match ambientUnit w m false with
        | some u => .unit u
        | none => .fresh


/-- The failure of a join that asks for database `requested` where the handle it would share is
on `database`. -/
def mismatch (database requested : String) : TxError :=
  .invalid ("cannot join a transaction on database '" ++ database ++ "' from a scope on '" ++
    requested ++ "'")

theorem checkSameDatabase_ok {hd : Handle} {requested : Option String}
    (h : checkSameDatabase hd requested = .ok ()) : ∀ d, requested = some d → d = hd.database := by
  rintro d rfl
  simp only [checkSameDatabase] at h
  split at h
  · cases h
  · rename_i hne
    simpa using hne

theorem checkSameDatabase_of_ne {hd : Handle} {d : String} (hne : d ≠ hd.database) :
    checkSameDatabase hd (some d) = .error (mismatch hd.database d) := by
  simp [checkSameDatabase, hne, mismatch]

theorem nesting_of_calm {s s' : World} (h : World.Calm s s') (m : Nat) (option : ScopeOption)
    (parent top : Option Nat) : nesting s' m option parent top = nesting s m option parent top := by
  cases option <;> simp only [nesting, offered, h.record, h.isOpen, h.ambientUnit]

/-- The handle of a scope is on the database it asked for, if it asked for one. -/
def OnDatabase (requested : Option String) (handle : Option Nat) (s : World) : Prop :=
  ∀ d h, requested = some d → handle = some h → (s.handle h).database = d

theorem OnDatabase.registry {requested : Option String} {handle : Option Nat} {s s' : World}
    (h : OnDatabase requested handle s) (hr : World.SameRegistry s s') :
    OnDatabase requested handle s' :=
  fun d i hd hi => (hr.database i).trans (h d i hd hi)

/-- Where plan `n` shares a handle on another database than the one asked for in `s₀`, the
call fails, and says so. -/
def Refuses {α : Type} (s₀ : World) (n : Nesting) (requested : Option String)
    (res : Except TxError α) : Prop :=
  ∀ h e d, n = .shares h e → requested = some d → d ≠ (s₀.handle h).database →
    res = .error (mismatch (s₀.handle h).database d)

/-- What choosing the handle of a scope begun in `s₀` under plan `n` gives, seen in `s`: the
handle, ownership and enlistment the plan describes, on the database asked for; and the
failure where the plan shares a handle on another database. -/
def Chosen (s₀ : World) (m : Nat) (n : Nesting) (requested : Option String)
    (res : Except TxError (Option Nat × Bool × Bool)) (s : World) : Prop :=
  (∀ handle owner enlisted, res = .ok (handle, owner, enlisted) →
    n.Describes s₀ s m handle owner enlisted ∧ OnDatabase requested handle s) ∧
  Refuses s₀ n requested res

/-- The server of manager `m` takes the scope: it supports transactions, and several databases
when the scope asks for one. -/
def Accepts (s₀ : World) (m : Nat) (requested : Option String) : Prop :=
  ∃ v, (s₀.manager m).version = some v ∧ v.supportsTransactions = true ∧
    (requested.isSome = true → v.supportsMultipleDatabases = true)

/-- What beginning a scope from `s₀` gives, seen in `s`. There is a stack `ctx` that the
running code uses. A scope that begins sits on it, and its record has the option asked for
and the handle, ownership and enlistment that the policy gives in `s₀` for that stack, on the
database asked for. Once the server takes the scope, a join that would share a handle on
another database fails as invalid. -/
def Begins (s₀ : World) (m : Nat) (option : ScopeOption) (parent : Option Nat)
    (requested : Option String) (res : Except TxError (Nat × Nat)) (s : World) : Prop :=
  ∃ ctx,
    (∀ r c, res = .ok (r, c) → c = ctx ∧ (s.record r).option = option ∧
      (nesting s₀ m option parent (topOf s₀ ctx)).Describes s₀ s m (s.record r).handle
        (s.record r).owner (s.record r).enlisted ∧
      OnDatabase requested (s.record r).handle s) ∧
    (Accepts s₀ m requested → Refuses s₀ (nesting s₀ m option parent (topOf s₀ ctx)) requested res)


/-! ## Making a handle -/

/-- Handle `h` exists, on `database`. -/
def Made (h : Nat) (database : String) (s : World) : Prop :=
  h < s.handles.size ∧ (s.handle h).database = database

theorem stable_made (h : Nat) (database : String) : Stable World.Grows (Made h database) :=
  fun _ _ ⟨hlt, hdb⟩ hg =>
    ⟨Nat.lt_of_lt_of_le hlt hg.handles, (hg.handle h hlt).database.trans hdb⟩

/-- A handle added after `s₀` exists on its database, in a world grown from `s₀`. -/
def MadeSince (s₀ : World) (h : Nat) (database : String) (s : World) : Prop :=
  s₀.handles.size ≤ h ∧ World.Grows s₀ s ∧ Made h database s

theorem stable_madeSince (s₀ : World) (h : Nat) (database : String) :
    Stable World.Grows (MadeSince s₀ h database) :=
  fun _ _ ⟨hnew, hg₀, hmade⟩ hg => ⟨hnew, hg₀.trans hg, stable_made h database _ _ hmade hg⟩

theorem addHandle_made (s₀ : World) (database : String) (link : Link) :
    Triple nestRules (World.Grows s₀) (addHandle database link) (MadeSince s₀ · database) := by
  unfold addHandle
  refine (Triple.modifyGet fun s _ => World.Grows.pushHandle s _).post ?_
  rintro h s' ⟨s, hs, rfl, hsched⟩
  -- the new handle comes last
  have hmade : MadeSince s₀ s.handles.size database
      { s with handles := s.handles.push { id := handleId s.handles.size, database, link } } :=
    ⟨hs.handles, hs.trans (World.Grows.pushHandle s _), by simp [Made, World.handle]⟩
  exact stable_madeSince s₀ _ database _ _ hmade hsched.grows

/-- Making a handle adds one, on the database asked for. -/
theorem newHandle_made (s₀ : World) (m : Nat) (version : ServerVersion) (database : String) :
    Triple nestRules (World.Grows s₀) (newHandle m version database).run
      fun res s => ∀ h, res = .ok h → MadeSince s₀ h database s := by
  unfold newHandle
  refine Triple.run_get_bind nestRules_lawful fun w hw => ?_
  refine Triple.pre ?_ fun s hs => hs.1.trans hs.2.grows
  dsimp only
  split
  · refine Triple.run_liftM_bind (addHandle_made s₀ _ _) fun h => ?_
    have hdone : Triple nestRules (MadeSince s₀ h database) (pure h : Tx Nat).run
        fun res s => ∀ h', res = .ok h' → MadeSince s₀ h' database s :=
      Triple.run_pure fun _ hs _ heq => by cases heq; exact hs
    split
    · -- the keep-alive task works on the new handle alone
      rename_i period _
      have hkeep := (keepAliveTask_frame h period).moves
      exact Triple.run_liftM_bind
        ((KeepsFrame.spawn (KeepsFrame.toFiber hkeep)).grows (stable_madeSince s₀ h database))
        fun _ => hdone
    · exact hdone
  · refine Triple.run_liftM_bind ((KeepsFrame.modifyGet fun s =>
      Move.handles ((HandleMove.note s _).trans (HandleMove.modifyPeer _ _ _))).grows
      (stable_grows s₀)) fun fault => ?_
    split
    · exact Triple.run_throw fun _ _ _ h => by cases h
    · exact Triple.run_liftM ((addHandle_made s₀ _ _).post fun _ _ hs _ heq => by
        cases heq; exact hs)

/-! ## The handle of a unit of work -/

/-- Manager `m` has enlisted handle `h` for the unit of work with identity `id`, and the handle
is on the database asked for. -/
def EnlistedFor (m : Nat) (id : Uuid) (requested : Option String) (h : Nat) (s : World) : Prop :=
  (∃ a, (s.manager m).enlistments.lookup id = some a ∧ (s.adapter a).handle = h) ∧
    OnDatabase requested (some h) s

/-- A handle that code hands back is enlisted for the unit of work `id`. -/
def Enlists (m : Nat) (id : Uuid) (requested : Option String) (res : Except TxError Nat)
    (s : World) : Prop :=
  ∀ h, res = .ok h → EnlistedFor m id requested h s

theorem Enlists.error {m : Nat} {id : Uuid} {requested : Option String} {e : TxError}
    {s : World} : Enlists m id requested (.error e) s :=
  fun _ h => by cases h

theorem stable_enlists (m : Nat) (id : Uuid) (requested : Option String)
    (res : Except TxError Nat) : Stable World.SameRegistry (Enlists m id requested res) := by
  rintro s s' he hr h rfl
  obtain ⟨⟨a, hl, ha⟩, hdb⟩ := he h rfl
  refine ⟨⟨a, by rw [hr.enlistments]; exact hl, ?_⟩, fun d h' hd hh => ?_⟩
  · simp only [World.adapter, hr.adapters]
    exact ha
  · rw [hr.database]
    exact hdb d h' hd hh

theorem lookup_filter_append {α β : Type} [BEq α] [LawfulBEq α] (l : List (α × β)) (k : α)
    (v : β) : (l.filter (·.1 != k) ++ [(k, v)]).lookup k = some v := by
  -- the filter leaves no entry under k, so the lookup falls through to the appended one
  have hnone : (l.filter (·.1 != k)).lookup k = none := by
    rw [List.lookup_eq_none_iff]
    intro p hp
    rw [bne_comm]
    exact (List.mem_filter.1 hp).2
  rw [List.lookup_append, hnone]
  simp

theorem manager_modifyManager_self (s : World) {m : Nat} (hm : m < s.managers.size)
    (g : Manager → Manager) : (s.modifyManager m g).manager m = g (s.manager m) := by
  simp [World.manager, World.modifyManager, Array.getElem?_modify, Array.getElem?_eq_getElem hm]

/-- What a new enlistment needs carried across the waits for the store and the unit: the handle
made for it and, once added, the adapter that holds it. -/
def Placed (s₀ : World) (h : Nat) (database : String) (a : Option Nat) (s : World) : Prop :=
  World.Grows s₀ s ∧ Made h database s ∧ ∀ i ∈ a, i < s.adapters.size ∧ (s.adapter i).handle = h

theorem stable_placed (s₀ : World) (h : Nat) (database : String) (a : Option Nat) :
    Stable World.Grows (Placed s₀ h database a) :=
  fun _ _ ⟨hg₀, hmade, hi⟩ hg => ⟨hg₀.trans hg, stable_made h database _ _ hmade hg,
    fun i hia => ⟨Nat.lt_of_lt_of_le (hi i hia).1 hg.adapters,
      (hg.adapter i (hi i hia).1).trans (hi i hia).2⟩⟩

/-- A new enlistment makes a handle, enlists it for the unit under its identity and hands it
back. -/
theorem enlistNew_enlists (s₀ : World) (m : Nat) (u : UnitRef) (unitId : Uuid)
    (version : ServerVersion) (database : String) (requested : Option String)
    (hdb : ∀ d, requested = some d → database = d) (hm : m < s₀.managers.size) :
    Triple nestRules (World.Grows s₀) (enlistNew m u unitId version database).run
      (Enlists m unitId requested) := by
  unfold enlistNew
  refine Triple.run_bind (fun res s => ∀ h, res = .ok h → Placed s₀ h database none s)
    ((newHandle_made s₀ m version database).post fun _ _ hs h heq =>
      ⟨(hs h heq).2.1, (hs h heq).2.2, fun _ h => by cases h⟩) (fun h => ?_) fun _ _ _ => Enlists.error
  refine Triple.run_get_bind nestRules_lawful fun w hw => ?_
  refine Triple.pre ?_ fun s hs => stable_placed s₀ h database none _ _ (hs.1 h rfl) hs.2.grows
  refine Triple.run_attempt_bind ((storeSave_frame m _).grows (stable_placed s₀ h database none))
    fun r => ?_
  split
  · -- the descriptor could not be saved
    refine Triple.run_liftM_bind
      ((abandonLocally_frame h).moves.grows (stable_placed s₀ h database none)) fun _ => ?_
    exact Triple.run_liftM_bind ((dropUnused_frame h).grows (stable_placed s₀ h database none))
      fun _ => Triple.run_throw fun _ _ => Enlists.error
  refine Triple.run_liftM_bind (Triple.modifyGet fun s _ => World.Grows.pushAdapter s _) fun a => ?_
  refine Triple.pre ?_ fun s' ⟨s, ⟨hg₀, hmade, _⟩, ha, hsched⟩ =>
    (show Placed s₀ h database (some a) s' from by
      subst ha
      have hpush := World.Grows.pushAdapter s
        { unitId, unit := u, rm := (descriptorFor w m h unitId version).rm, handle := h,
          manager := m }
      refine stable_placed s₀ h database _ _ _
        ⟨hg₀.trans hpush, stable_made h database _ _ hmade hpush, ?_⟩ hsched.grows
      rintro i ⟨⟩
      simp [World.adapter])
  refine Triple.run_attempt_bind ((enlistIn_frame u a true).grows (stable_placed s₀ h database _))
    fun r => ?_
  split
  · -- a failed enlistment rolls the handle back and forgets the descriptor
    refine Triple.pre ?_ fun _ _ => trivial
    extract_lets jp
    have hjp : ∀ v, Triple nestRules (fun _ => True) (jp v).run (Enlists m unitId requested) := by
      intro v
      refine Triple.run_attempt_bind ((storeRemove_frame _ _ _).grows stable_trivial) fun _ => ?_
      refine Triple.run_liftM_bind ((dropUnused_frame h).grows stable_trivial) fun _ => ?_
      split <;> exact Triple.run_throw fun _ _ => Enlists.error
    refine Triple.run_liftM_bind ((abandonLocally_frame h).moves.grows stable_trivial) fun _ => ?_
    refine Triple.run_liftM_bind (KeepsFrame.read.grows stable_trivial) fun _ => ?_
    split
    · exact Triple.run_attempt_bind ((rollback_frame h).moves.grows stable_trivial) fun _ => hjp ()
    · exact hjp ()
  · -- the unit's identity now names the new adapter
    refine Triple.run_liftM_bind (Triple.modify fun s _ => World.Grows.modifyManager s m _)
      fun _ => ?_
    refine Triple.run_pure fun s' ⟨s, ⟨hg₀, ⟨_, hdb'⟩, ha⟩, hsched⟩ h' heq => ?_
    cases heq
    obtain ⟨-, hah⟩ := ha a rfl
    have hms : m < s.managers.size := Nat.lt_of_lt_of_le hm hg₀.managers
    refine stable_enlists m unitId requested (.ok h) _ _ (fun _ heq => ?_) hsched.sameRegistry h rfl
    cases heq
    refine ⟨⟨a, ?_, hah⟩, fun d h' hd hh => ?_⟩
    · rw [manager_modifyManager_self s hms]
      exact lookup_filter_append _ unitId a
    · cases hh
      rw [← hdb d hd]
      exact hdb'

/-- The handle of manager `m` for a unit of work is the one it has enlisted for the unit, made
on first use. -/
theorem enlistedHandle_enlists (m : Nat) (u : UnitRef) (version : ServerVersion)
    (database : String) (requested : Option String)
    (hdb : ∀ d, requested = some d → database = d) (id : Uuid) :
    Triple nestRules (fun s => s.unitId u = id ∧ m < s.managers.size)
      (enlistedHandle m u version database requested).run (Enlists m id requested) := by
  unfold enlistedHandle
  refine Triple.run_get_bind nestRules_lawful fun w hw => ?_
  obtain ⟨rfl, hm⟩ := hw
  dsimp only
  -- from here on only growth from what was read matters
  refine Triple.pre ?_ fun s hs => hs.2.grows
  refine Triple.run_liftM_bind ((Step.acquire_frame _).grows (stable_grows w)) fun _ => ?_
  refine Triple.run_andThen (Enlists m (w.unitId u) requested) ?_ fun r =>
    Triple.change_calm (fun s => (World.Calm.unhold s _).trans (World.Calm.unlock _ _))
      (stable_enlists m _ requested r)
  refine Triple.run_liftM_bind ((prune_frame m).grows (stable_grows w)) fun _ => ?_
  refine Triple.run_get_bind nestRules_lawful fun w' hw' => ?_
  split
  · rename_i a hlook
    split
    · exact Triple.run_throw_bind fun _ _ => Enlists.error
    · refine Triple.run_ofExcept_bind (fun _ hok => Triple.run_pure fun s hs h heq => ?_)
        fun _ _ _ _ => Enlists.error
      cases heq
      -- `s` is what was read, up to the books
      have hcalm : World.Calm w' s := hs.2
      refine ⟨⟨a, ?_, by simp only [World.adapter, hcalm.adapters]⟩, fun d h' hd hh => ?_⟩
      · rw [hcalm.sameRegistry.enlistments]
        exact hlook
      · cases hh
        rw [hcalm.sameRegistry.database, ← checkSameDatabase_ok hok d hd]
  · exact (enlistNew_enlists w m u _ version database requested hdb hm).pre
      fun s hs => hs.1.trans hs.2.grows

/-! ## Choosing the handle -/

/-- Naming no parent, a join may share the handle of the innermost scope if it is open, and is
then enlisted as that scope is. -/
theorem offered_none (w : World) (top : Option Nat) :
    offered w none top =
      ((top.map w.record).bind fun r => r.handle.filter fun h => (w.handle h).isOpen).map
        fun h => (h, (top.map w.record).any ScopeRecord.enlisted) := by
  cases top with
  | none => rfl
  | some t =>
    cases hh : (w.record t).handle with
    | none => simp [offered, hh]
    | some h => by_cases ho : (w.handle h).isOpen <;> simp [offered, hh, ho, Option.filter]

theorem nesting_shares {w : World} {m : Nat} {parent top : Option Nat} {h : Nat} {e : Bool}
    (ho : offered w parent top = some (h, e)) : nesting w m .join parent top = .shares h e := by
  simp [nesting, ho]

/-- With nothing to share, a join follows the unit of work the code would use. -/
theorem nesting_unit {w : World} {m : Nat} {parent top : Option Nat} {u : UnitRef}
    (ho : offered w parent top = none)
    (hu : ambientUnit w m ((top.map w.record).any (·.handle.isNone)) = some u) :
    nesting w m .join parent top = .unit u := by
  cases hs : top.any fun t => (w.record t).handle.isNone with
  | true =>
    rw [Option.any_map, hs] at hu
    simp [ambientUnit] at hu
  | false =>
    rw [Option.any_map, hs] at hu
    simp [nesting, ho, hs, hu]

theorem nesting_fresh {w : World} {m : Nat} {parent top : Option Nat}
    (ho : offered w parent top = none)
    (hu : ambientUnit w m ((top.map w.record).any (·.handle.isNone)) = none) :
    nesting w m .join parent top = .fresh := by
  cases hs : top.any fun t => (w.record t).handle.isNone with
  | true => simp [nesting, ho, hs]
  | false =>
    rw [Option.any_map, hs] at hu
    simp [nesting, ho, hs, hu]

/-- Finding the stack of the running code leaves the choice of a handle alone. -/
theorem contextOf_calm (s₀ : World) (m : Nat) :
    Triple nestRules (World.Calm s₀) (contextOf m) fun _ => World.Calm s₀ := by
  unfold contextOf
  refine Triple.bind (Triple.get nestRules_lawful) fun w => ?_
  have hw : ∀ s, World.Calm s₀ w ∧ nestRules.sched w s → World.Calm s₀ s :=
    fun _ h => h.1.trans h.2
  split
  · exact Triple.pure_of hw
  · split
    · exact Triple.pure_of hw
    · split
      · exact Triple.pure_of hw
      · -- a new, empty stack, noted for the task
        refine (Triple.modifyGet fun s _ => (World.Calm.stackFor s m _).grows).post ?_
        rintro _ s' ⟨s, hs, -, hsched⟩
        exact ((hw s hs).trans (World.Calm.stackFor s m _)).trans hsched

theorem lt_size_of_ambientUnit {w : World} {m : Nat} {b : Bool} {u : UnitRef}
    (h : ambientUnit w m b = some u) : m < w.managers.size := by
  rcases Nat.lt_or_ge m w.managers.size with hlt | hge
  · exact hlt
  · -- past the managers there is only the default one, which is not attached
    have hdef : w.manager m = default := by simp [World.manager, hge]
    have hoff : (w.manager m).ambient = false := by rw [hdef]; rfl
    simp [ambientUnit, hoff] at h

/-- Holding a unit of work is a change of the books and of the unit's count. -/
theorem calm_holdUnit (s : World) (u : UnitRef) :
    World.Calm s ((match u with
      | .local i => s.modifyUnit i fun x => { x with inFlight := x.inFlight + 1 }
      | .manual i => s.modifyManualUnit i fun x => { x with inFlight := x.inFlight + 1 }).hold
        (.unitRef u)) := by
  cases u with
  | «local» i =>
    exact (World.Calm.modifyUnit s i (by intro; rfl)).trans (World.Calm.books _ _ _ _ _ _ _ _ _)
  | manual i =>
    exact (World.Calm.modifyManualUnit s i (by intro; rfl)).trans
      (World.Calm.books _ _ _ _ _ _ _ _ _)

/-- Holding a unit of work keeps the choice of a handle. -/
theorem holdUnit_calm (u : UnitRef) (P : World → Prop) :
    Triple nestRules P (Step.holdUnit u) fun _ s' => ∃ s, P s ∧ World.Calm s s' := by
  unfold Step.holdUnit Step.change
  dsimp only
  refine (Triple.modify fun s _ => (calm_holdUnit s u).grows).post ?_
  rintro _ s' ⟨s, hs, hsched⟩
  exact ⟨s, hs, (calm_holdUnit s u).trans hsched⟩

/-- A joining scope gets the handle the policy gives in the world it starts in. -/
theorem joinHandle_chosen (s₀ : World) (m : Nat) (version : ServerVersion) (database : String)
    (requested : Option String) (parent top : Option Nat)
    (hdb : ∀ d, requested = some d → database = d) :
    Triple nestRules (World.Calm s₀) (joinHandle m version database requested parent top).run
      (Chosen s₀ m (nesting s₀ m .join parent top) requested) := by
  unfold joinHandle
  refine Triple.run_get_bind nestRules_lawful fun w hw => ?_
  rw [← nesting_of_calm hw]
  dsimp only
  split
  · rename_i h hjoined
    -- the code's joinable handle is the one the policy offers, with its scope's enlistment
    have hoff : offered w parent top =
        some (h, parent.isNone && (top.map w.record).any (·.enlisted)) := by
      split at hjoined
      · split at hjoined
        · cases hjoined
          simp [offered, *]
        · cases hjoined
      · rw [offered_none, hjoined]
        rfl
    rw [nesting_shares hoff]
    refine Triple.run_ofExcept_bind (fun _ hok => Triple.run_pure fun s hs => ⟨?_, ?_⟩)
      fun e herr s _ => ⟨(fun _ _ _ heq => by cases heq), ?_⟩
    · -- the shared handle is on the database asked for
      rintro _ _ _ ⟨⟩
      refine ⟨⟨rfl, rfl, rfl⟩, fun d h' hd hh => ?_⟩
      cases hh
      rw [(hs.2.handle h).2.database, ← checkSameDatabase_ok hok d hd]
    · rintro h' e' d ⟨⟩ hd hne
      exact absurd ((checkSameDatabase_ok hok d hd).trans (hw.handle h).2.database) hne
    · -- a handle on another database is refused
      rintro h' e' d ⟨⟩ hd hne
      rw [hd, checkSameDatabase_of_ne (by rwa [(hw.handle h).2.database])] at herr
      cases herr
      rw [(hw.handle h).2.database]
  · rename_i hnone
    have hoff : offered w parent top = none := by
      split at hnone
      · split at hnone
        · cases hnone
        · simp [offered, *]
      · rw [offered_none, hnone]
        rfl
    split
    · rename_i u hu
      rw [nesting_unit hoff hu]
      have hm := lt_size_of_ambientUnit hu
      refine Triple.run_liftM_bind (holdUnit_calm u _) fun _ => ?_
      refine Triple.run_bind (Enlists m (s₀.unitId u) requested) ?_ (fun h => ?_)
        fun e s _ => ⟨(fun _ _ _ heq => by cases heq), fun _ _ _ hn => by cases hn⟩
      · refine Triple.run_andThen (Enlists m (s₀.unitId u) requested)
          ((enlistedHandle_enlists m u version database requested hdb _).pre ?_) fun r =>
            Triple.change_calm (fun s => (World.Calm.unhold s _).trans (World.Calm.letGoUnit _ _))
              (stable_enlists m _ requested r)
        -- holding the unit keeps its identity and the managers
        rintro s ⟨s', ⟨-, hws'⟩, hcalm⟩
        have hc : World.Calm s₀ s := (hw.trans hws').trans hcalm
        exact ⟨hc.unitId u, hc.managers ▸ (hw.managers ▸ hm)⟩
      · refine Triple.run_pure fun s hs => ⟨?_, fun _ _ _ hn => by cases hn⟩
        rintro _ _ _ ⟨⟩
        obtain ⟨⟨a, hl, ha⟩, hdbs⟩ := hs h rfl
        exact ⟨⟨a, hl, by rw [ha], rfl, rfl⟩, hdbs⟩
    · rename_i hu
      rw [nesting_fresh hoff hu]
      refine Triple.run_bind (fun res s => ∀ h, res = .ok h → MadeSince s₀ h database s)
        ((newHandle_made s₀ m version database).pre fun s hs => (hw.trans hs.2).grows)
        (fun h => Triple.run_pure fun s hs => ⟨?_, fun _ _ _ hn => by cases hn⟩)
        fun e s _ => ⟨(fun _ _ _ heq => by cases heq), fun _ _ _ hn => by cases hn⟩
      rintro _ _ _ ⟨⟩
      obtain ⟨hnew, -, -, hdbs⟩ := hs h rfl
      exact ⟨⟨h, rfl, hnew, rfl, rfl⟩, fun d h' hd hh => by cases hh; rw [hdbs, hdb d hd]⟩

/-! ## Beginning a scope -/

/-- A failure before the stack is known: the server does not take the scope. -/
theorem Begins.refused {s₀ s : World} {m : Nat} {option : ScopeOption} {parent : Option Nat}
    {requested : Option String} {e : TxError} (h : ¬Accepts s₀ m requested) :
    Begins s₀ m option parent requested (.error e) s :=
  ⟨0, (fun _ _ heq => by cases heq), fun ha => absurd ha h⟩

/-- A failure while the handle is chosen, on stack `ctx`. -/
theorem Begins.of_chosen {s₀ s : World} {m : Nat} {option : ScopeOption} {parent : Option Nat}
    {requested : Option String} {ctx : Nat} {e : TxError}
    (h : Chosen s₀ m (nesting s₀ m option parent (topOf s₀ ctx)) requested (.error e) s) :
    Begins s₀ m option parent requested (.error e) s := by
  refine ⟨ctx, (fun _ _ heq => by cases heq), fun _ h' e' d hn hd hne => ?_⟩
  cases h.2 h' e' d hn hd hne
  rfl

/-- A scope that begins gets the record the nesting policy gives in the world the call starts
in, on the database it asks for; a join that would share a handle on another database fails as
invalid once the server takes the scope. -/
theorem beginTransaction_nests (s₀ : World) (m : Nat) (option : ScopeOption)
    (parent : Option Nat) (requested : Option String) :
    Triple nestRules (· = s₀) (beginTransaction m option parent requested).run
      (Begins s₀ m option parent requested) := by
  unfold beginTransaction
  refine Triple.run_get_bind nestRules_lawful fun w hw => ?_
  subst hw
  refine Triple.pre ?_ fun s h => h.2
  extract_lets jpVersion
  have hVersion : ∀ v, (w.manager m).version = some v →
      Triple nestRules (World.Calm w) (jpVersion v).run (Begins w m option parent requested) := by
    intro v hv
    simp -zeta only [jpVersion]
    extract_lets jpTail jpChecked
    have hTail : Triple nestRules (World.Calm w) (jpTail ()).run
        (Begins w m option parent requested) := by
      simp -zeta only [jpTail]
      refine Triple.run_liftM_bind (contextOf_calm w m) fun ctx => ?_
      refine Triple.run_get_bind nestRules_lawful fun w' hw' => ?_
      refine Triple.pre ?_ fun s h => h.1.trans h.2
      extract_lets top database jpPush
      have htop : top = topOf w ctx := hw'.topOf ctx
      have hdb : ∀ d, requested = some d → database = d := by
        rintro d rfl
        rfl
      have hPush : ∀ x, Triple nestRules
          (Chosen w m (nesting w m option parent (topOf w ctx)) requested (.ok x))
          (jpPush x).run (Begins w m option parent requested) := by
        rintro ⟨handle, owner, enlisted⟩
        -- the record is pushed and put on the stack; neither touches the registry
        refine Triple.run_liftM_bind (Triple.modifyGet fun s _ => World.Grows.of_eq rfl rfl rfl)
          fun r => ?_
        refine Triple.run_liftM_bind (Triple.modify fun s _ => World.Grows.of_eq rfl rfl rfl)
          fun _ => ?_
        refine Triple.run_pure fun s₃ hs₃ => ?_
        obtain ⟨s₂, ⟨s₁, hc, hr, hsched₁⟩, hsched₂⟩ := hs₃
        refine ⟨ctx, fun r' c heq => ?_, fun _ h e d hn hd hne => by cases hc.2 h e d hn hd hne⟩
        cases heq
        subst hr
        have hrec : s₃.record s₁.records.size =
            { serial := s₁.nextSerial, option, handle, owner, enlisted } := by
          rw [hsched₂.record, World.record_modifyContext, hsched₁.record]
          simp [World.record]
        have hreg : World.SameRegistry s₁ s₃ :=
          ((World.SameRegistry.of_eq (by rfl) (by rfl) (by rfl)).trans hsched₁.sameRegistry).trans
            ((World.SameRegistry.of_eq (by rfl) (by rfl) (by rfl)).trans hsched₂.sameRegistry)
        obtain ⟨hdesc, hon⟩ := hc.1 handle owner enlisted rfl
        rw [hrec]
        exact ⟨rfl, rfl, hdesc.registry hreg, hon.registry hreg⟩
      cases option with
      | suppress =>
        exact Triple.run_pure_bind ((hPush _).pre fun _ _ =>
          ⟨fun _ _ _ heq => by cases heq; exact ⟨⟨rfl, rfl, rfl⟩, fun _ _ _ h => by cases h⟩,
            fun _ _ _ hn => by cases hn⟩)
      | requiresNew =>
        refine Triple.run_bind (fun res s => ∀ h, res = .ok h → MadeSince w h database s)
          ((newHandle_made w m v database).pre fun s hs => hs.grows)
          (fun h => Triple.run_pure_bind ((hPush _).pre fun s hs => ?_))
          fun _ _ _ => ⟨ctx, (fun _ _ heq => by cases heq), fun _ _ _ _ hn => by cases hn⟩
        obtain ⟨hnew, -, -, hdbs⟩ := hs h rfl
        refine ⟨fun _ _ _ heq => ?_, fun _ _ _ hn => by cases hn⟩
        cases heq
        exact ⟨⟨h, rfl, hnew, rfl, rfl⟩, fun d h' hd hh => by cases hh; rw [hdbs, hdb d hd]⟩
      | join =>
        exact Triple.run_bind _
          ((joinHandle_chosen w m v database requested parent top hdb).post fun _ _ h => htop ▸ h)
          hPush fun e s hc => Begins.of_chosen hc
    have hChecked : Triple nestRules (World.Calm w) (jpChecked ()).run
        (Begins w m option parent requested) := by
      simp -zeta only [jpChecked]
      split
      · split
        · rename_i d _ hmulti
          refine Triple.run_throw_bind fun _ _ => Begins.refused fun ha => ?_
          obtain ⟨v', hv', _, hm⟩ := ha
          cases hv.symm.trans hv'
          simp [hm rfl] at hmulti
        · exact hTail
      · exact hTail
    split
    · rename_i htx
      refine Triple.run_throw_bind fun _ _ => Begins.refused fun ha => ?_
      obtain ⟨v', hv', ht, _⟩ := ha
      cases hv.symm.trans hv'
      simp [ht] at htx
    · exact hChecked
  split
  · rename_i v hv
    exact Triple.run_pure_bind (hVersion v hv)
  · rename_i hv
    refine Triple.run_throw_bind fun _ _ => Begins.refused fun ha => ?_
    obtain ⟨_, hv', _⟩ := ha
    rw [hv] at hv'
    cases hv'

end Manager

/-- The nesting policy holds for every scope that begins. The scheduler keeps the rules under
which it is stated. From any world, a scope that begins gets the record the policy gives there,
on the database it asked for, and a join that would share a handle on another database fails
as invalid. Under every plan, an owner has a handle and an enlisted scope owns none. A handle
made for a scope is none that a stack or a registry named when it began, so long as they named
only handles that exist. -/
theorem scope_nesting_policy :
    World.host.Keeps nestRules ∧
    (∀ s₀ m option parent requested,
      Triple nestRules (· = s₀) (Manager.beginTransaction m option parent requested).run
        (Manager.Begins s₀ m option parent requested)) ∧
    (∀ (s₀ s : World) m (n : Nesting) handle owner enlisted,
      n.Describes s₀ s m handle owner enlisted →
        (owner = true → handle.isSome = true) ∧ (enlisted = true → owner = false)) ∧
    ∀ (s₀ s : World) m handle owner enlisted, s₀.Anchored →
      Nesting.fresh.Describes s₀ s m handle owner enlisted →
      (∀ c, ∀ r ∈ (s₀.context c).records, (s₀.record r).handle ≠ handle) ∧
        ∀ i id a, (s₀.manager i).enlistments.lookup id = some a →
          handle ≠ some (s₀.adapter a).handle :=
  ⟨World.host_keeps_nestRules, Manager.beginTransaction_nests,
    fun _ _ _ _ _ _ _ h => h.owner_enlisted, fun _ _ _ _ _ _ hA h => h.fresh_unnamed hA⟩

/-- On a stack whose one scope shares handle 0, a scope given a handle of its own gets another
handle. -/
theorem new_handle_avoids_stack :
    World.Anchored
      { handles := #[{ id := ⟨0⟩, database := "neo4j", link := .session 0 }],
        records := #[⟨0, .join, some 0, false, false, false⟩],
        contexts := #[{ records := [0] }] } ∧
    Nesting.fresh.Describes
      { handles := #[{ id := ⟨0⟩, database := "neo4j", link := .session 0 }],
        records := #[⟨0, .join, some 0, false, false, false⟩],
        contexts := #[{ records := [0] }] } {} 0 (some 1) true false ∧
    (({ handles := #[{ id := ⟨0⟩, database := "neo4j", link := .session 0 }],
        records := #[⟨0, .join, some 0, false, false, false⟩],
        contexts := #[{ records := [0] }] } : World).record 0).handle ≠ some 1 := by
  have hA : World.Anchored
      { handles := #[{ id := ⟨0⟩, database := "neo4j", link := .session 0 }],
        records := #[⟨0, .join, some 0, false, false, false⟩],
        contexts := #[{ records := [0] }] } := by
    constructor
    · intro c r hr h hh
      -- stack 0 holds scope 0, on handle 0; there is no other stack
      rcases c with _ | c
      · simp [World.context] at hr
        subst hr
        simp [World.record] at hh
        simp [← hh]
      · simp [World.context] at hr
        exact absurd hr (by rw [show (default : Context).records = [] from rfl]; simp)
    · intro i id a hl
      -- there is no manager, so no enlistment
      simp [World.manager] at hl
      exact absurd hl (by rw [show (default : Manager).enlistments = [] from rfl]; simp)
  have hfresh : Nesting.fresh.Describes
      { handles := #[{ id := ⟨0⟩, database := "neo4j", link := .session 0 }],
        records := #[⟨0, .join, some 0, false, false, false⟩],
        contexts := #[{ records := [0] }] } {} 0 (some 1) true false :=
    ⟨1, rfl, by decide, rfl, rfl⟩
  exact ⟨hA, hfresh, (scope_nesting_policy.2.2.2 _ _ _ _ _ _ hA hfresh).1 0 0 (by decide)⟩

end TxnCoord
