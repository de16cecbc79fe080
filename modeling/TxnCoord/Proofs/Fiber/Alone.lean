import TxnCoord.Proofs.Fiber.Schedule
import TxnCoord.World.Host
/-!
# Code that runs alone

`Agenda.run` runs one task until it suspends: it takes each step at once, passes every wait
whose thing has already come, and only queues the tasks it starts. Code that never has to
stay at a wait therefore runs to its end in one go, and no other task runs meanwhile: its
own steps are all that happens to the state, so a statement about the run can say exactly
which requests went out.

`Alone h t P x Q` says this of code `x` run as task `t` under host `h`: from an agenda
satisfying `P`, running `x` with any continuation gets to that continuation, in an agenda
satisfying `Q`, without suspending on the way. It composes like `Triple`, and a wait on a
condition passes only where the condition already holds.

    Alone h t P x Q → (∀ a, Alone h t (Q a) (f a) T) → Alone h t P (x >>= f) T   (Alone.bind)
    Alone h t (fun a => P a ∧ h.holds c a.state) (Async.await (.until c)) fun _ => P
                                                                        (Alone.await)
-/

namespace TxnCoord

variable {σ κ α β : Type}

namespace Agenda

variable {h : Host σ κ} {t : Nat}

/-- Running task `t` on fiber `f` from agenda `a` reaches, with enough fuel, an agenda
satisfying `R`. -/
def Ends (h : Host σ κ) (t : Nat) (f : Fiber σ κ) (R : Agenda σ κ → Prop) (a : Agenda σ κ) :
    Prop :=
  ∃ fuel, R (run h fuel a t f)

/-- Waking the tasks the state names changes the state only as the host takes the wakes. -/
theorem state_drain (a : Agenda σ κ) : (drain h a).state = (h.takeWakes a.state).2 :=
  state_foldl_wake _ _

/-- Clearing the bookkeeping of a wait that has come leaves the state alone. -/
theorem state_consume (a : Agenda σ κ) (t : Nat) (w : Await κ) : (a.consume t w).state = a.state := by
  cases w <;> rfl

theorem state_finish (a : Agenda σ κ) (t : Nat) : (a.finish t).state = a.state := by
  unfold finish
  dsimp only
  split
  · split
    · exact state_wake _ _
    · rfl
  · rfl

theorem tasks_enterTask (a : Agenda σ κ) (t : Nat) : (enterTask h a t).tasks = a.tasks := by
  unfold enterTask
  split <;> rfl

/-- Waking a task leaves the fiber of every task as it was. -/
theorem fiber_wake (a : Agenda σ κ) (t i : Nat) :
    (a.wake t).tasks[i]?.map (·.fiber) = a.tasks[i]?.map (·.fiber) := by
  unfold wake
  split
  · rfl
  · split
    · split
      · rfl
      · simp only [modifyTask, Array.getElem?_modify]
        split <;> cases a.tasks[i]? <;> rfl
    · rfl

/-- A task started runs the child it was given, under the next number. -/
theorem fiber_start (a : Agenda σ κ) (parent owner : Nat) (child : Fiber σ κ) :
    (start h a parent owner child).1.tasks[a.tasks.size]?.map (·.fiber) = some child := by
  unfold start
  rw [fiber_wake]
  simp

namespace Ends

variable {R : Agenda σ κ → Prop}

theorem done {a : Agenda σ κ} (hR : R (a.finish t)) : Ends h t .done R a := ⟨1, hR⟩

/-- A step is taken at once, and the tasks it names are woken. -/
theorem exec {step : σ → σ × Fiber σ κ} {a : Agenda σ κ}
    (hk : Ends h t (step a.state).2 R (drain h { a with state := (step a.state).1 })) :
    Ends h t (.exec step) R a := by
  obtain ⟨fuel, hr⟩ := hk
  exact ⟨fuel + 1, hr⟩

/-- A wait on a condition that holds is passed at once. -/
theorem wait {c : κ} {k : Fiber σ κ} {a : Agenda σ κ} (hc : h.holds c a.state = true)
    (hk : Ends h t k R a) : Ends h t (.wait (.until c) k) R a := by
  obtain ⟨fuel, hr⟩ := hk
  refine ⟨fuel + 1, ?_⟩
  simp only [run, ready, hc, if_true]
  exact hr

/-- A task started is only queued, under a fresh owner, and the running task goes on. -/
theorem spawn {child : Fiber σ κ} {k : Nat → Fiber σ κ} {a : Agenda σ κ}
    (hk : Ends h t (k a.tasks.size) R (enterTask h (start h { a with state := (h.fresh a.state).2 } t
      (h.fresh a.state).1 child).1 t)) :
    Ends h t (.spawn child k) R a := by
  obtain ⟨fuel, hr⟩ := hk
  exact ⟨fuel + 1, hr⟩

end Ends

end Agenda

/-- Code `x` run as task `t` alone: from an agenda satisfying `P`, it gets to any
continuation without suspending, in an agenda satisfying `Q` of the value it hands over. -/
def Alone (h : Host σ κ) (t : Nat) (P : Agenda σ κ → Prop) (x : Async σ κ α)
    (Q : α → Agenda σ κ → Prop) : Prop :=
  ∀ (k : α → Fiber σ κ) (R : Agenda σ κ → Prop), (∀ v a, Q v a → Agenda.Ends h t (k v) R a) →
    ∀ a, P a → Agenda.Ends h t (x k) R a

namespace Alone

variable {h : Host σ κ} {t : Nat} {P P' : Agenda σ κ → Prop} {Q Q' : α → Agenda σ κ → Prop}

theorem pure_of {v : α} (hq : ∀ a, P a → Q v a) : Alone h t P (Pure.pure v : Async σ κ α) Q :=
  fun _ _ hk a ha => hk v a (hq a ha)

theorem bind {x : Async σ κ α} {f : α → Async σ κ β} {T : β → Agenda σ κ → Prop}
    (hx : Alone h t P x Q) (hf : ∀ v, Alone h t (Q v) (f v) T) : Alone h t P (x >>= f) T :=
  fun k R hk => hx _ R fun v => hf v k R hk

theorem conseq {x : Async σ κ α} (hx : Alone h t P x Q) (hP : ∀ a, P' a → P a)
    (hQ : ∀ v a, Q v a → Q' v a) : Alone h t P' x Q' :=
  fun k R hk a ha => hx k R (fun v a' hq => hk v a' (hQ v a' hq)) a (hP a ha)

theorem pre {x : Async σ κ α} (hx : Alone h t P x Q) (hP : ∀ a, P' a → P a) : Alone h t P' x Q :=
  hx.conseq hP fun _ _ hq => hq

theorem post {x : Async σ κ α} (hx : Alone h t P x Q) (hQ : ∀ v a, Q v a → Q' v a) :
    Alone h t P x Q' :=
  hx.conseq (fun _ hp => hp) hQ

/-- A fact that every start satisfies may be assumed. -/
theorem of_fact {F : Prop} {x : Async σ κ α} (hx : F → Alone h t P x Q) :
    Alone h t (fun a => F ∧ P a) x Q :=
  fun k R hk a ha => hx ha.1 k R hk a ha.2

/-- A change of the state is taken at once; the host then takes the wakes it names. -/
theorem modifyGet {f : σ → α × σ} :
    Alone h t P (MonadStateOf.modifyGet f : Async σ κ α)
      (fun v a' => ∃ a, P a ∧ (f a.state).1 = v ∧ a' = Agenda.drain h { a with state := (f a.state).2 }) :=
  fun _ _ hk a ha => Agenda.Ends.exec (hk _ _ ⟨a, ha, rfl, rfl⟩)

theorem get : Alone h t P (MonadStateOf.get : Async σ κ σ)
    (fun v a' => ∃ a, P a ∧ a.state = v ∧ a' = Agenda.drain h a) :=
  fun _ _ hk a ha => Agenda.Ends.exec (hk _ _ ⟨a, ha, rfl, rfl⟩)

/-- A wait on a condition that already holds is passed at once. -/
theorem await {c : κ} :
    Alone h t (fun a => P a ∧ h.holds c a.state = true) (Async.await (.until c) : Async σ κ Unit)
      (fun _ => P) :=
  fun _ _ hk a ha => Agenda.Ends.wait ha.2 (hk () a ha.1)

/-- A sleep whose deadline the clock has reached is passed at once. -/
theorem sleep_due {W : σ → Prop} {d : Nat} :
    Alone h t (fun a => W a.state ∧ d ≤ a.now) (Async.await (.sleep d) : Async σ κ Unit)
      (fun _ a => W a.state) := by
  intro k R hk a ha
  have hnext : W (a.consume t (.sleep d)).state := by
    rw [Agenda.state_consume]
    exact ha.1
  obtain ⟨fuel, hr⟩ := hk () _ hnext
  refine ⟨fuel + 1, ?_⟩
  have hready : Agenda.ready h a t (.sleep d) = true := by
    simp only [Agenda.ready, decide_eq_true_eq]
    exact ha.2
  simp only [Async.await, Agenda.run, hready, if_true]
  exact hr

/-- A task started is only queued; it gets the next number, and the running task goes on. -/
theorem spawn {child : Fiber σ κ} :
    Alone h t P (Async.spawn child)
      (fun id a' => ∃ a, P a ∧ id = a.tasks.size ∧ a' = Agenda.enterTask h
        (Agenda.start h { a with state := (h.fresh a.state).2 } t (h.fresh a.state).1 child).1 t) :=
  fun _ _ hk a ha => Agenda.Ends.spawn (hk _ _ ⟨a, ha, rfl, rfl⟩)

end Alone

/-! ## Code that may fail -/

namespace Alone

variable {t : Nat} {P : Agenda World Cond → Prop} {α β : Type}

/-- A request of `Step` followed by more code. -/
theorem run_liftM_bind {x : Step α} {f : α → Tx β} {Q : α → Agenda World Cond → Prop}
    {T : Except TxError β → Agenda World Cond → Prop}
    (hx : Alone World.host t P x Q) (hf : ∀ v, Alone World.host t (Q v) (f v).run T) :
    Alone World.host t P ((liftM x : Tx α) >>= f).run T :=
  fun k R hk => hx _ R fun v => hf v k R hk

/-- Code whose verdict, failed or not, is handed to the code that follows. -/
theorem run_attempt_bind {x : Tx α} {f : Except TxError α → Tx β}
    {Q : Except TxError α → Agenda World Cond → Prop} {T : Except TxError β → Agenda World Cond → Prop}
    (hx : Alone World.host t P x.run Q) (hf : ∀ r, Alone World.host t (Q r) (f r).run T) :
    Alone World.host t P (Tx.attempt x >>= f).run T :=
  fun k R hk => hx _ R fun r => hf r k R hk

/-- A request of `Step` that ends a block hands on its value as a success. -/
theorem run_liftM {x : Step α} {T : Except TxError α → Agenda World Cond → Prop}
    (hx : Alone World.host t P x fun v => T (.ok v)) : Alone World.host t P (liftM x : Tx α).run T :=
  fun _ R hk => hx _ R fun v => hk (.ok v)

/-- Code that may fail followed by more code: a failure skips the rest. -/
theorem run_bind {x : Tx α} {f : α → Tx β} (Q : Except TxError α → Agenda World Cond → Prop)
    {T : Except TxError β → Agenda World Cond → Prop} (hx : Alone World.host t P x.run Q)
    (hf : ∀ v, Alone World.host t (Q (.ok v)) (f v).run T)
    (he : ∀ e a, Q (.error e) a → T (.error e) a) : Alone World.host t P (x >>= f).run T := by
  intro k R hk
  refine hx _ R fun r => ?_
  cases r with
  | ok v => exact hf v k R hk
  | error e => exact fun a hq => hk (.error e) a (he e a hq)

/-- Code that runs after a block, failed or not, and then hands on the block's verdict. -/
theorem run_andThen {x : Tx α} {after : Step Unit} (Q : Except TxError α → Agenda World Cond → Prop)
    {T : Except TxError α → Agenda World Cond → Prop} (hx : Alone World.host t P x.run Q)
    (ha : ∀ r, Alone World.host t (Q r) after (fun _ => T r)) :
    Alone World.host t P (Tx.andThen x after).run T :=
  fun _ R hk => hx _ R fun r => ha r _ R fun _ => hk r

/-- A verdict given by a value: the code that follows runs only on a success. -/
theorem run_ofExcept_bind {e : Except TxError α} {f : α → Tx β}
    {T : Except TxError β → Agenda World Cond → Prop}
    (hok : ∀ v, e = .ok v → Alone World.host t P (f v).run T)
    (herr : ∀ x, e = .error x → ∀ a, P a → T (.error x) a) :
    Alone World.host t P (Tx.ofExcept e >>= f).run T := by
  intro k R hk
  cases e with
  | ok v => exact hok v rfl k R hk
  | error x => exact fun a ha => hk _ a (herr x rfl a ha)

theorem run_pure {v : α} {T : Except TxError α → Agenda World Cond → Prop}
    (hq : ∀ a, P a → T (.ok v) a) : Alone World.host t P (Pure.pure v : Tx α).run T :=
  fun _ _ hk a ha => hk _ a (hq a ha)

theorem run_pure_bind {v : α} {f : α → Tx β} {T : Except TxError β → Agenda World Cond → Prop}
    (hf : Alone World.host t P (f v).run T) : Alone World.host t P (Pure.pure v >>= f).run T := hf

theorem run_throw {e : TxError} {T : Except TxError α → Agenda World Cond → Prop}
    (hq : ∀ a, P a → T (.error e) a) : Alone World.host t P (throw e : Tx α).run T :=
  fun _ _ hk a ha => hk _ a (hq a ha)

theorem run_throw_bind {e : TxError} {f : α → Tx β} {T : Except TxError β → Agenda World Cond → Prop}
    (hq : ∀ a, P a → T (.error e) a) : Alone World.host t P (throw e >>= f).run T :=
  fun _ _ hk a ha => hk _ a (hq a ha)

/-! ## The world alone

Between two steps the host only clears the tasks to wake, so what code alone does can be
told of the world alone. -/

variable {W : World → Prop}

/-- A change of the world: afterwards the host has cleared the tasks to wake. -/
theorem modifyGet_world {f : World → α × World} {Q : α → Agenda World Cond → Prop}
    (hf : ∀ s, W s → ∀ a, a.state = { (f s).2 with wakes := [] } → Q (f s).1 a) :
    Alone World.host t (fun a => W a.state) (MonadStateOf.modifyGet f : Step α) Q :=
  Alone.modifyGet.post fun _ _ hq => by
    obtain ⟨a, ha, hv, he⟩ := hq
    subst hv he
    exact hf _ ha _ (Agenda.state_drain _)

theorem change_world {f : World → World} {Q : Unit → Agenda World Cond → Prop}
    (hf : ∀ s, W s → ∀ a, a.state = { f s with wakes := [] } → Q () a) :
    Alone World.host t (fun a => W a.state) (Step.change f) Q :=
  modifyGet_world hf

/-- A change of a known world. -/
theorem change_at {f : World → World} {s : World} {Q : Unit → Agenda World Cond → Prop}
    (hf : ∀ a, a.state = { f s with wakes := [] } → Q () a) :
    Alone World.host t (fun a => a.state = s) (Step.change f) Q :=
  @change_world t (· = s) f Q fun _ hs a he => by
    subst hs
    exact hf a he

/-- A read of the world: the code sees the world as it is, and the host then clears the
tasks to wake. -/
theorem get_world (W : World → Prop) :
    Alone World.host t (fun a => W a.state) (MonadStateOf.get : Step World)
      (fun v a => W v ∧ a.state = { v with wakes := [] }) :=
  Alone.get.post fun _ _ hq => by
    obtain ⟨a, ha, hv, he⟩ := hq
    subst hv he
    exact ⟨ha, Agenda.state_drain a⟩

/-- Starting a task changes no handle and logs nothing; the task runs the child it was
given. -/
theorem spawn_world {child : Fiber World Cond}
    (hW : ∀ s s', s'.handles = s.handles → s'.log = s.log → W s → W s') :
    Alone World.host t (fun a => W a.state) (Async.spawn child)
      (fun id a => W a.state ∧ a.tasks[id]?.map (·.fiber) = some child) :=
  Alone.spawn.post fun _ _ hq => by
    obtain ⟨a, ha, hid, he⟩ := hq
    subst hid he
    -- starting a task and entering the running one again touch only owners and overrides
    have hkeep : ∀ (b : Agenda World Cond) (o : Nat),
        (Agenda.enterTask World.host (Agenda.start World.host b t o child).1 t).state.handles =
          b.state.handles ∧
        (Agenda.enterTask World.host (Agenda.start World.host b t o child).1 t).state.log =
          b.state.log := by
      intro b o
      unfold Agenda.enterTask
      split <;> simp only [Agenda.start, Agenda.state_wake, World.host] <;> split <;> exact ⟨rfl, rfl⟩
    obtain ⟨hh, hl⟩ := hkeep { a with state := (World.host.fresh a.state).2 } (World.host.fresh a.state).1
    refine ⟨hW a.state _ hh hl ha, ?_⟩
    rw [Agenda.tasks_enterTask]
    exact Agenda.fiber_start _ _ _ _

/-- Code told of each world it may start in, one world at a time. -/
theorem of_each_world {x : Async World Cond α} {Q : α → Agenda World Cond → Prop}
    (hx : ∀ s, W s → Alone World.host t (fun a => a.state = s) x Q) :
    Alone World.host t (fun a => W a.state) x Q :=
  fun k R hk a ha => hx a.state ha k R hk a rfl

/-- A wait on a condition that the world already satisfies. -/
theorem await_world {c : Cond} (hc : ∀ s, W s → World.host.holds c s = true) :
    Alone World.host t (fun a => W a.state) (Async.await (.until c) : Step Unit)
      (fun _ a => W a.state) :=
  Alone.await.pre fun _ ha => ⟨ha, hc _ ha⟩

end Alone

end TxnCoord
