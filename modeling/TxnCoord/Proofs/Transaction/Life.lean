import TxnCoord.Proofs.Fiber.Schedule
import TxnCoord.Proofs.World.Steps
/-!
# The life of a transaction handle

A handle's state, its address on the server and its first statement failure make up its
life (`Handle.life`). A life only moves forward (`Handle.Evolves`): an ended state stays,
a known address stays, a recorded failure stays.

`lifeRules` are the rules of `Rules` for that: every step of a fiber, and whatever other
tasks do while it waits, lets every handle's life move forward; the scheduler's bookkeeping
between two steps of one fiber changes no life at all, and giving back what an owner held
lets lives move forward only (`World.host_keeps_lifeRules`).

Code of the coordinator reads a handle and writes it later in the same atomic segment.
What it read about the states of the handles stays true until it next waits: steps that
change no state keep it (`Triple.modifyGet_sameState`, `Triple.change_sameState`).

    World.host.Keeps lifeRules                                      (World.host_keeps_lifeRules)
-/

namespace TxnCoord

/-- The part of a handle that only moves forward: its state, its address on the server and
its first statement failure. -/
def Handle.life (hd : Handle) : TxState × Option String × Option TxError :=
  (hd.state, hd.location, hd.failure)

/-- How a handle's life may move on: an ended state stays, a known address stays, and a
recorded failure stays. -/
structure Handle.Evolves (hd hd' : Handle) : Prop where
  state : hd.state ≠ .open → hd'.state = hd.state
  location : ∀ loc, hd.location = some loc → hd'.location = some loc
  failure : ∀ e, hd.failure = some e → hd'.failure = some e

namespace Handle.Evolves

theorem refl (hd : Handle) : hd.Evolves hd := ⟨fun _ => rfl, fun _ h => h, fun _ h => h⟩

theorem trans {a b c : Handle} (h₁ : a.Evolves b) (h₂ : b.Evolves c) : a.Evolves c where
  state h := by rw [h₂.state (by rw [h₁.state h]; exact h), h₁.state h]
  location loc h := h₂.location loc (h₁.location loc h)
  failure e h := h₂.failure e (h₁.failure e h)

theorem of_life {a b : Handle} (h : b.life = a.life) : a.Evolves b := by
  simp only [Handle.life, Prod.mk.injEq] at h
  obtain ⟨hs, hl, hf⟩ := h
  exact ⟨fun _ => hs, fun _ h => hl ▸ h, fun _ h => hf ▸ h⟩

/-- An open transaction may end in any state. -/
theorem of_open {hd : Handle} (h : hd.state = .open) (st : TxState) :
    hd.Evolves { hd with state := st } :=
  ⟨fun h' => absurd h h', fun _ h => h, fun _ h => h⟩

/-- A transaction is ended only when it is open, whatever else the condition asks. -/
theorem of_open_if (hd : Handle) (c : Bool) (st : TxState) :
    hd.Evolves (if (c && hd.state == .open) = true then { hd with state := st } else hd) := by
  split
  · rename_i hc
    simp only [Bool.and_eq_true, beq_iff_eq] at hc
    exact of_open hc.2 st
  · exact refl _

/-- A handle with no address may get one. -/
theorem of_location_none {hd : Handle} (h : hd.location = none) (loc : String) :
    hd.Evolves { hd with location := some loc } where
  state _ := rfl
  location _ h' := by rw [h] at h'; cases h'
  failure _ h := h

/-- A handle with no failure may record one. -/
theorem of_failure_none {hd : Handle} (h : hd.failure = none) (e : TxError) :
    hd.Evolves { hd with failure := some e } where
  state _ := rfl
  location _ h := h
  failure _ h' := by rw [h] at h'; cases h'

/-- Recording a statement failure: the failure is filled in where there is none (`hd₁`),
and the transaction then ends only if it is open. -/
theorem of_failed {hd hd₁ : Handle} (e : TxError)
    (h₁ : hd₁ = if hd.failure.isNone then { hd with failure := some e } else hd) (c : Bool)
    (st : TxState) :
    hd.Evolves (if (c && hd₁.state == .open) = true then { hd₁ with state := st } else hd₁) := by
  have filled : hd.Evolves hd₁ := by
    rw [h₁]
    split
    · rename_i hn
      exact of_failure_none (Option.isNone_iff_eq_none.1 hn) e
    · exact refl _
  exact filled.trans (of_open_if _ _ _)

/-- The default handle, which a number out of range stands for, is open with no address
and no failure: any handle may follow it. -/
theorem of_default (hd : Handle) : (default : Handle).Evolves hd where
  state h := absurd rfl h
  location _ h := by cases h
  failure _ h := by cases h

end Handle.Evolves

namespace World

/-- Every handle's life moves on as `Handle.Evolves` allows. -/
def Evolves (w w' : World) : Prop := ∀ i, (w.handle i).Evolves (w'.handle i)

/-- No handle's life changes. -/
def SameLife (w w' : World) : Prop := ∀ i, (w'.handle i).life = (w.handle i).life

/-- No handle's state changes. -/
def SameState (w w' : World) : Prop := ∀ i, (w'.handle i).state = (w.handle i).state

theorem evolves_modifyHandle (w : World) (i : Nat) {f : Handle → Handle}
    (hf : (w.handle i).Evolves (f (w.handle i))) : w.Evolves (w.modifyHandle i f) :=
  handle_rel_modifyHandle Handle.Evolves Handle.Evolves.refl w i f hf

/-- A new handle comes with a life of its own. -/
theorem evolves_push (w : World) (hd : Handle) :
    w.Evolves { w with handles := w.handles.push hd } := by
  intro i
  simp only [World.handle, Array.getElem?_push]
  split
  · rename_i h
    subst h
    simp only [Array.getElem?_eq_none (Nat.le_refl _), Option.getD_none]
    exact Handle.Evolves.of_default hd
  · exact Handle.Evolves.refl _

namespace SameLife

theorem refl (w : World) : w.SameLife w := fun _ => rfl

theorem trans {a b c : World} (h₁ : a.SameLife b) (h₂ : b.SameLife c) : a.SameLife c :=
  fun i => (h₂ i).trans (h₁ i)

theorem of_handles {w w' : World} (h : w'.handles = w.handles) : w.SameLife w' := by
  intro i
  simp only [World.handle, h]

theorem evolves {w w' : World} (h : w.SameLife w') : w.Evolves w' :=
  fun i => Handle.Evolves.of_life (h i)

theorem sameState {w w' : World} (h : w.SameLife w') : w.SameState w' :=
  fun i => congrArg Prod.fst (h i)

theorem hold {w w' : World} (h : w.SameLife w') (x : Hold) : w.SameLife (w'.hold x) := h

theorem unhold {w w' : World} (h : w.SameLife w') (x : Hold) : w.SameLife (w'.unhold x) :=
  h.trans (of_handles (w'.handles_unhold x))

end SameLife

theorem sameLife_modifyHandle (w : World) (i : Nat) {f : Handle → Handle}
    (hf : ∀ hd, (f hd).life = hd.life) : w.SameLife (w.modifyHandle i f) :=
  handle_rel_modifyHandle (fun a b => b.life = a.life) (fun _ => rfl) w i f (hf _)

theorem sameLife_give (w : World) (x : Hold) : w.SameLife (w.give x) := by
  cases x with
  | pending h => exact w.sameLife_modifyHandle h fun _ => rfl
  | ticket h n => exact w.sameLife_modifyHandle h fun _ => rfl
  | lock m => exact SameLife.of_handles (handles_unlock w m)
  | unitRef u => exact SameLife.of_handles (handles_letGoUnit w u)

theorem sameLife_releaseOwner (w : World) (o : Nat) : w.SameLife (w.releaseOwner o) := by
  simp only [World.releaseOwner]
  generalize (w.holds.filter (·.1 == o)).reverse = xs
  have start : w.SameLife { w with holds := w.holds.filter (·.1 != o) } := SameLife.of_handles rfl
  generalize { w with holds := w.holds.filter (·.1 != o) } = w₀ at start
  -- each resource given back keeps the lives, whatever was given back before it
  induction xs generalizing w₀ with
  | nil => exact start
  | cons x rest ih => exact ih _ (start.trans (w₀.sameLife_give x.2))

end World

/-- A fiber's steps let lives move on, and so does whatever happens while it waits; the
scheduler's bookkeeping between two of its steps changes no life. -/
def lifeRules : Rules World Cond := ⟨World.Evolves, World.SameLife, World.Evolves, fun _ _ => True⟩

theorem lifeRules_lawful : lifeRules.Lawful where
  rely_refl _ _ := Handle.Evolves.refl _
  rely_trans _ _ _ h₁ h₂ i := (h₁ i).trans (h₂ i)
  sched_refl := World.SameLife.refl
  sched_trans _ _ _ := World.SameLife.trans
  guar_refl _ _ := Handle.Evolves.refl _
  sched_rely _ _ := World.SameLife.evolves
  guar_rely _ _ h := h

/-- The scheduler's bookkeeping never touches a handle's life, and giving back what an owner
held only ends what was open. -/
theorem World.host_keeps_lifeRules : World.host.Keeps lifeRules where
  listen c t s := by
    cases c with
    | turn h n => exact s.sameLife_modifyHandle h fun hd => by split <;> rfl
    | granted m o => exact World.SameLife.of_handles rfl
  forget t s := by
    intro i
    simp only [World.host, World.handle, Array.getElem?_map]
    cases s.handles[i]? <;> rfl
  release o s := (s.sameLife_releaseOwner o).evolves
  takeWakes s := World.SameLife.of_handles rfl
  fresh s := World.SameLife.of_handles rfl
  enter t o n s := World.SameLife.of_handles rfl
  spawned p c s := by
    apply World.SameLife.of_handles
    simp only [World.host]
    split <;> rfl
  holds _ _ _ := trivial

/-- Code that, from any state, takes only steps that let every handle's life move on as
`Handle.Evolves` allows, and starts only tasks that do the same. -/
def KeepsLife {α : Type} (x : Step α) : Prop :=
  Triple lifeRules (fun _ => True) x (fun _ _ => True)

section Knowledge

variable {α : Type} {P : World → Prop}

theorem stable_true : Stable World.SameState fun _ => True := fun _ _ _ _ => trivial

theorem stable_open (h : Nat) : Stable World.SameState fun s => (s.handle h).state = .open :=
  fun _ _ hs hr => (hr h).trans hs

/-- What a read found open is still open until the fiber next waits. -/
theorem open_of_read {w : World} {h : Nat} (hopen : (w.handle h).state = .open)
    {Q : Prop} (s : World) (hs : Q ∧ lifeRules.sched w s) : (s.handle h).state = .open :=
  (World.SameLife.sameState hs.2 h).trans hopen

/-- Code that needs handle `h` open may follow a read that found it open. -/
theorem Triple.pre_open {w : World} {h : Nat} {Q : Prop} {x : Step α} {T : α → World → Prop}
    (hopen : (w.handle h).state = .open)
    (hx : Triple lifeRules (fun s => (s.handle h).state = .open) x T) :
    Triple lifeRules (fun s => Q ∧ lifeRules.sched w s) x T :=
  hx.pre (open_of_read hopen)

/-- A step that lets lives move on without changing a state keeps what the states tell. -/
theorem Triple.modifyGet_sameState {f : World → α × World}
    (hg : ∀ s, P s → s.Evolves (f s).2) (hs : ∀ s : World, s.SameState (f s).2)
    (hP : Stable World.SameState P) :
    Triple lifeRules P (MonadStateOf.modifyGet f : Step α) (fun _ => P) :=
  (Triple.modifyGet hg).post fun _ _ ⟨s, hps, _, hr⟩ => hP _ _ (hP _ _ hps (hs s)) hr.sameState

theorem Triple.change_sameState {f : World → World}
    (hg : ∀ s, P s → s.Evolves (f s)) (hs : ∀ s : World, s.SameState (f s))
    (hP : Stable World.SameState P) :
    Triple lifeRules P (Step.change f) (fun _ => P) :=
  (Triple.modify hg).post fun _ _ ⟨s, hps, hr⟩ => hP _ _ (hP _ _ hps (hs s)) hr.sameState

/-- A step that changes no life keeps what the states tell. -/
theorem Triple.modifyGet_sameLife {f : World → α × World} (hf : ∀ s : World, s.SameLife (f s).2)
    (hP : Stable World.SameState P) :
    Triple lifeRules P (MonadStateOf.modifyGet f : Step α) (fun _ => P) :=
  Triple.modifyGet_sameState (fun s _ => (hf s).evolves) (fun s => (hf s).sameState) hP

theorem Triple.change_sameLife {f : World → World} (hf : ∀ s : World, s.SameLife (f s))
    (hP : Stable World.SameState P) :
    Triple lifeRules P (Step.change f) (fun _ => P) :=
  Triple.change_sameState (fun s _ => (hf s).evolves) (fun s => (hf s).sameState) hP

end Knowledge

end TxnCoord
