import TxnCoord.Proofs.Fiber.Rules
import TxnCoord.World.Host
/-!
# Steps of the coordinator's code

Two kinds of facts that every proof about the coordinator's code leans on.

* What a change of the world leaves alone. A handle is read through `World.handle`, which
  gives the default handle for a number out of range; changing one handle leaves every
  other as it was (`World.handle_modifyHandle`), and the bookkeeping of owners, locks,
  peers, the log and the scope stacks leaves the array of handles itself alone.
* Triples for code that may fail. A `Tx` block is an `ExceptT` over `Step`, and a triple
  about its `run` speaks of the verdict it hands on. The rules follow the shapes that `do`
  blocks of `Tx` take: a lifted request followed by more code, a verdict given by a value,
  an early failure, and code that runs after a block whether it failed or not.

    Triple ρ P x.run Q → (∀ r, Triple ρ (Q r) after (fun _ => T r)) →
      Triple ρ P (Tx.andThen x after).run T                                  (Triple.run_andThen)
-/

namespace TxnCoord

namespace World

theorem handle_modifyHandle (w : World) (i j : Nat) (f : Handle → Handle) :
    (w.modifyHandle i f).handle j =
      if i = j ∧ j < w.handles.size then f (w.handle j) else w.handle j := by
  simp only [World.handle, World.modifyHandle, Array.getElem?_modify]
  by_cases hij : i = j
  · subst hij
    by_cases hs : i < w.handles.size
    · simp [hs]
    · simp [hs]
  · simp [hij]

theorem handle_modifyHandle_self (w : World) {i : Nat} (hi : i < w.handles.size)
    (f : Handle → Handle) : (w.modifyHandle i f).handle i = f (w.handle i) := by
  rw [handle_modifyHandle, if_pos ⟨rfl, hi⟩]

/-- A relation that holds of every handle and itself holds of every handle before and
after a change of one handle that it allows. -/
theorem handle_rel_modifyHandle (R : Handle → Handle → Prop) (hR : ∀ hd, R hd hd)
    (w : World) (i : Nat) (f : Handle → Handle) (hf : R (w.handle i) (f (w.handle i)))
    (j : Nat) : R (w.handle j) ((w.modifyHandle i f).handle j) := by
  rw [handle_modifyHandle]
  split
  · rename_i h
    obtain ⟨rfl, -⟩ := h
    exact hf
  · exact hR _

@[simp] theorem handles_hold (w : World) (x : Hold) : (w.hold x).handles = w.handles := rfl

@[simp] theorem handles_unhold (w : World) (x : Hold) : (w.unhold x).handles = w.handles := by
  unfold unhold
  split
  · rfl
  · split <;> rfl

@[simp] theorem log_unhold (w : World) (x : Hold) : (w.unhold x).log = w.log := by
  unfold unhold
  split
  · rfl
  · split <;> rfl

/-- A change of a scope record that keeps its handle keeps every record's handle. -/
theorem handle_record_modifyRecord (w : World) (i j : Nat) {f : ScopeRecord → ScopeRecord}
    (hf : ∀ x, (f x).handle = x.handle) :
    ((w.modifyRecord i f).record j).handle = (w.record j).handle := by
  simp only [World.record, World.modifyRecord, Array.getElem?_modify]
  split <;> cases w.records[j]? <;> simp [hf]

@[simp] theorem record_modifyContext (w : World) (i j : Nat) (f : Context → Context) :
    (w.modifyContext i f).record j = w.record j := rfl

@[simp] theorem handles_note (w : World) (e : Json) : (w.note e).handles = w.handles := rfl

@[simp] theorem handles_modifyPeer (w : World) (i : Nat) (f : Peer → Peer) :
    (w.modifyPeer i f).handles = w.handles := rfl

@[simp] theorem handles_modifyLock (w : World) (i : Nat) (f : Lock → Lock) :
    (w.modifyLock i f).handles = w.handles := rfl

@[simp] theorem handles_modifyRecord (w : World) (i : Nat) (f : ScopeRecord → ScopeRecord) :
    (w.modifyRecord i f).handles = w.handles := rfl

@[simp] theorem handles_modifyContext (w : World) (i : Nat) (f : Context → Context) :
    (w.modifyContext i f).handles = w.handles := rfl

@[simp] theorem handles_modifyManager (w : World) (i : Nat) (f : Manager → Manager) :
    (w.modifyManager i f).handles = w.handles := rfl

@[simp] theorem handles_setOverrides (w : World) (t : Nat) (stack : List (List (Nat × Nat))) :
    (w.setOverrides t stack).handles = w.handles := rfl

@[simp] theorem handles_newContext (w : World) : w.newContext.2.handles = w.handles := rfl

@[simp] theorem handles_unlock (w : World) (m : Nat) : (w.unlock m).handles = w.handles := by
  unfold unlock
  split <;> rfl

@[simp] theorem handles_letGoUnit (w : World) (u : UnitRef) : (w.letGoUnit u).handles = w.handles := by
  cases u <;> rfl

/-- A relation that changing the list of holds alone allows, that every resource given back
allows, and that chains, holds across releasing what an owner held. -/
theorem rel_releaseOwner (R : World → World → Prop)
    (hholds : ∀ (w : World) (hs : List (Nat × Hold)), R w { w with holds := hs })
    (htrans : ∀ a b c, R a b → R b c → R a c) (hgive : ∀ w x, R w (w.give x)) (w : World)
    (o : Nat) : R w (w.releaseOwner o) := by
  simp only [World.releaseOwner]
  have start := hholds w (w.holds.filter (·.1 != o))
  generalize (w.holds.filter (·.1 == o)).reverse = xs
  generalize { w with holds := w.holds.filter (·.1 != o) } = w₀ at start
  -- each resource given back chains on to what was given back before it
  induction xs generalizing w₀ with
  | nil => exact start
  | cons x rest ih => exact ih _ (htrans _ _ _ start (hgive w₀ x.2))

end World

/-! ## Triples for code that may fail -/

namespace Triple

variable {ρ : Rules World Cond} {P : World → Prop} {α β : Type}

/-- Reading the world: the code that follows need only be safe for what a state satisfying
`P` can show. A read is a step that changes nothing, so the fiber's rules must allow that. -/
theorem run_get_bind_of_refl (hg : ∀ s, ρ.guar s s) {f : World → Tx β}
    {T : Except TxError β → World → Prop}
    (hf : ∀ w, P w → Triple ρ (fun s => P w ∧ ρ.sched w s) (f w).run T) :
    Triple ρ P ((liftM (MonadStateOf.get : Step World) : Tx World) >>= f).run T :=
  fun k hk => Safe.exec (fun s _ => hg s) fun s hs => (hf s hs k hk).mono fun _ h => ⟨hs, h⟩

theorem run_get_bind (hρ : ρ.Lawful) {f : World → Tx β} {T : Except TxError β → World → Prop}
    (hf : ∀ w, P w → Triple ρ (fun s => P w ∧ ρ.sched w s) (f w).run T) :
    Triple ρ P ((liftM (MonadStateOf.get : Step World) : Tx World) >>= f).run T :=
  run_get_bind_of_refl hρ.guar_refl hf

/-- A request of `Step` followed by more code. -/
theorem run_liftM_bind {x : Step α} {f : α → Tx β} {Q : α → World → Prop}
    {T : Except TxError β → World → Prop}
    (hx : Triple ρ P x Q) (hf : ∀ a, Triple ρ (Q a) (f a).run T) :
    Triple ρ P ((liftM x : Tx α) >>= f).run T :=
  fun k hk => hx _ fun a => hf a k hk

/-- A request of `Step` that ends a block hands on its value as a success. -/
theorem run_liftM {x : Step α} {T : Except TxError α → World → Prop}
    (hx : Triple ρ P x fun a => T (.ok a)) : Triple ρ P (liftM x : Tx α).run T :=
  fun _ hk => hx _ fun a => hk (.ok a)

/-- Code that may fail followed by more code: a failure skips the rest. -/
theorem run_bind {x : Tx α} {f : α → Tx β} (Q : Except TxError α → World → Prop)
    {T : Except TxError β → World → Prop} (hx : Triple ρ P x.run Q)
    (hf : ∀ a, Triple ρ (Q (.ok a)) (f a).run T) (he : ∀ e s, Q (.error e) s → T (.error e) s) :
    Triple ρ P (x >>= f).run T := by
  intro k hk
  refine hx _ fun r => ?_
  cases r with
  | ok a => exact hf a k hk
  | error e => exact (hk (.error e)).mono (he e)

/-- Code that runs after a block, failed or not, and then hands on the block's verdict. -/
theorem run_andThen {x : Tx α} {after : Step Unit} (Q : Except TxError α → World → Prop)
    {T : Except TxError α → World → Prop} (hx : Triple ρ P x.run Q)
    (ha : ∀ r, Triple ρ (Q r) after (fun _ => T r)) : Triple ρ P (Tx.andThen x after).run T :=
  fun _ hk => hx _ fun r => ha r _ fun _ => hk r

/-- A verdict given by a value: the code that follows runs only on a success, and knows
which value it got. -/
theorem run_ofExcept_bind {e : Except TxError α} {f : α → Tx β}
    {T : Except TxError β → World → Prop} (hok : ∀ a, e = .ok a → Triple ρ P (f a).run T)
    (herr : ∀ x, e = .error x → ∀ s, P s → T (.error x) s) :
    Triple ρ P (Tx.ofExcept e >>= f).run T := by
  intro k hk
  cases e with
  | ok a => exact hok a rfl k hk
  | error x => exact (hk _).mono (herr x rfl)

theorem run_ofExcept {e : Except TxError α} {T : Except TxError α → World → Prop}
    (h : ∀ s, P s → T e s) : Triple ρ P (Tx.ofExcept e).run T :=
  fun _ hk => (hk _).mono h

theorem run_pure {a : α} {T : Except TxError α → World → Prop} (h : ∀ s, P s → T (.ok a) s) :
    Triple ρ P (Pure.pure a : Tx α).run T :=
  fun _ hk => (hk _).mono h

theorem run_pure_bind {a : α} {f : α → Tx β} {T : Except TxError β → World → Prop}
    (h : Triple ρ P (f a).run T) : Triple ρ P (Pure.pure a >>= f).run T := h

theorem run_throw {e : TxError} {T : Except TxError α → World → Prop}
    (h : ∀ s, P s → T (.error e) s) : Triple ρ P (throw e : Tx α).run T :=
  fun _ hk => (hk _).mono h

theorem run_throw_bind {e : TxError} {f : α → Tx β} {T : Except TxError β → World → Prop}
    (h : ∀ s, P s → T (.error e) s) : Triple ρ P (throw e >>= f).run T :=
  fun _ hk => (hk _).mono h

/-- Code whose verdict is taken as a value: what follows runs on either verdict. -/
theorem run_attempt_bind {x : Tx α} {f : Except TxError α → Tx β}
    {Q : Except TxError α → World → Prop} {T : Except TxError β → World → Prop}
    (hx : Triple ρ P x.run Q) (hf : ∀ r, Triple ρ (Q r) (f r).run T) :
    Triple ρ P (Tx.attempt x >>= f).run T :=
  fun k hk => hx _ fun r => hf r k hk

end Triple

end TxnCoord
