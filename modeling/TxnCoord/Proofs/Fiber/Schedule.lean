import TxnCoord.Proofs.Fiber.Rules
/-!
# The agenda keeps to the rules its tasks keep to

If every task of an agenda, every deadline branch it may fall back on and every future it
keeps is safe for rules `ρ`, from a fact that holds now and that `ρ.rely` keeps, then so is
the agenda after any amount of running, and the state has changed only as `ρ.rely` allows.
Nothing here depends on the order in which the agenda picks its tasks: the proof follows
one task's run step by step (`run_sound`), and the rounds only decide whose turn it is.

The host's own bookkeeping must stay within `ρ.sched`, giving back what an owner held
within `ρ.rely`, and a condition it reports as come must tell what `ρ.woken` says
(`Host.Keeps`).

    Sound ρ a → Sound ρ (loop h fuel a) ∧ ρ.rely a.state (loop h fuel a).state   (loop_sound)
-/

namespace TxnCoord

variable {σ κ : Type}

/-- The host keeps to rules `ρ`: its bookkeeping changes the state only as `ρ.sched`
allows, giving back what an owner held only as `ρ.rely` allows, and a condition it finds
come tells what `ρ.woken` says. -/
structure Host.Keeps (h : Host σ κ) (ρ : Rules σ κ) : Prop where
  listen : ∀ c t s, ρ.sched s (h.listen c t s)
  forget : ∀ t s, ρ.sched s (h.forget t s)
  release : ∀ o s, ρ.rely s (h.release o s)
  takeWakes : ∀ s, ρ.sched s (h.takeWakes s).2
  fresh : ∀ s, ρ.sched s (h.fresh s).2
  enter : ∀ t o n s, ρ.sched s (h.enter t o n s)
  spawned : ∀ p c s, ρ.sched s (h.spawned p c s)
  holds : ∀ c s, h.holds c s = true → ρ.woken c s

namespace Agenda

variable (ρ : Rules σ κ)

/-- A fiber that is safe from a fact that holds in `s` and that others keep. -/
def Holds (s : σ) (f : Fiber σ κ) : Prop := ∃ P, Stable ρ.rely P ∧ P s ∧ Safe ρ P f

/-- A task whose fiber, and the branch of every deadline it is under, hold in `s`. -/
def TaskHolds (s : σ) (x : Task σ κ) : Prop :=
  Holds ρ s x.fiber ∧ ∀ fr ∈ x.frames, Holds ρ s fr.expired

/-- Every task and every kept future of the agenda holds in its state. -/
def Sound (a : Agenda σ κ) : Prop :=
  (∀ (t : Nat) (x : Task σ κ), a.tasks[t]? = some x → TaskHolds ρ a.state x) ∧ ∀ e ∈ a.kept, Holds ρ a.state e.2.2

variable {ρ}

theorem Holds.done (s : σ) : Holds ρ s (.done : Fiber σ κ) :=
  ⟨fun _ => True, fun _ _ _ _ => trivial, trivial, .done⟩

theorem Holds.rely {s s' : σ} {f : Fiber σ κ} (h : Holds ρ s f) (hr : ρ.rely s s') :
    Holds ρ s' f := by
  obtain ⟨P, hP, hs, hf⟩ := h
  exact ⟨P, hP, hP _ _ hs hr, hf⟩

/-- A fiber safe from what is known now holds, once that knowledge is closed under `rely`. -/
theorem Holds.of_safe (hρ : ρ.Lawful) {P : σ → Prop} {s : σ} {f : Fiber σ κ} (hs : P s)
    (hf : Safe ρ (After ρ.rely P) f) : Holds ρ s f :=
  ⟨After ρ.rely P, After.stable hρ.rely_trans, After.of_mem hρ.rely_refl hs, hf⟩

/-- A fiber safe from what was known in an earlier state holds, once that knowledge is
closed under `rely`. -/
theorem Holds.of_after (hρ : ρ.Lawful) {P : σ → Prop} {s₀ s : σ} {f : Fiber σ κ} (hs₀ : P s₀)
    (hr : ρ.rely s₀ s) (hf : Safe ρ (After ρ.rely P) f) : Holds ρ s f :=
  ⟨After ρ.rely P, After.stable hρ.rely_trans, ⟨s₀, hs₀, hr⟩, hf⟩

theorem TaskHolds.rely {s s' : σ} {x : Task σ κ} (h : TaskHolds ρ s x) (hr : ρ.rely s s') :
    TaskHolds ρ s' x :=
  ⟨h.1.rely hr, fun fr hfr => (h.2 fr hfr).rely hr⟩

/-- A change of the state that others rely on keeps an agenda sound. -/
theorem Sound.rely {a : Agenda σ κ} (h : Sound ρ a) {s : σ} (hr : ρ.rely a.state s) :
    Sound ρ { a with state := s } :=
  ⟨fun t x hx => (h.1 t x hx).rely hr, fun e he => (h.2 e he).rely hr⟩

/-- An agenda of one task, under no deadline and keeping no future, is sound when the task's
fiber holds. -/
theorem Sound.single {s : σ} {x : Task σ κ} (hx : Holds ρ s x.fiber) (hfr : x.frames = []) :
    Sound ρ ({ state := s, tasks := #[x] } : Agenda σ κ) := by
  refine ⟨fun t y hy => ?_, fun e he => by cases he⟩
  rcases t with _ | t
  · have hxy : x = y := by simpa using hy
    subst hxy
    refine ⟨hx, fun fr hin => ?_⟩
    rw [hfr] at hin
    cases hin
  · simp at hy

/-- Changing one task keeps an agenda sound when the change keeps that task holding. -/
theorem Sound.modifyTask {a : Agenda σ κ} (h : Sound ρ a) (t : Nat) (f : Task σ κ → Task σ κ)
    (hf : ∀ x, a.tasks[t]? = some x → TaskHolds ρ a.state (f x)) :
    Sound ρ (a.modifyTask t f) := by
  refine ⟨fun i y hy => ?_, h.2⟩
  simp only [Agenda.modifyTask, Array.getElem?_modify] at hy
  split at hy
  · rename_i hti
    subst hti
    obtain ⟨x, hx, rfl⟩ := Option.map_eq_some_iff.1 hy
    exact hf x hx
  · exact h.1 i y hy

/-- A change of a task's flags, timers or owner, with its fiber and its deadline branches
kept, keeps an agenda sound. -/
theorem Sound.modifyTask_flags {a : Agenda σ κ} (h : Sound ρ a) (t : Nat)
    (f : Task σ κ → Task σ κ) (hfib : ∀ x, (f x).fiber = x.fiber)
    (hfr : ∀ x, (f x).frames = x.frames) : Sound ρ (a.modifyTask t f) :=
  h.modifyTask t f fun x hx => by
    obtain ⟨h₁, h₂⟩ := h.1 t x hx
    exact ⟨hfib x ▸ h₁, fun fr hfr' => h₂ fr (hfr x ▸ hfr')⟩

theorem Sound.wake {a : Agenda σ κ} (h : Sound ρ a) (t : Nat) : Sound ρ (a.wake t) := by
  unfold Agenda.wake
  split
  · exact ⟨h.1, h.2⟩
  · split
    · split
      · exact h
      · exact ⟨(h.modifyTask_flags t (fun x => { x with queued := true }) (fun _ => rfl)
          (fun _ => rfl)).1, h.2⟩
    · exact h

theorem state_wake (a : Agenda σ κ) (t : Nat) : (a.wake t).state = a.state := by
  unfold wake
  split
  · rfl
  · split
    · split <;> rfl
    · rfl

theorem state_foldl_wake (ts : List Nat) (a : Agenda σ κ) : (ts.foldl wake a).state = a.state := by
  induction ts generalizing a with
  | nil => rfl
  | cons t rest ih => exact (ih (a.wake t)).trans (state_wake a t)

theorem Sound.foldl_wake {a : Agenda σ κ} (h : Sound ρ a) (ts : List Nat) :
    Sound ρ (ts.foldl Agenda.wake a) ∧ (ts.foldl Agenda.wake a).state = a.state := by
  refine ⟨?_, state_foldl_wake ts a⟩
  induction ts generalizing a with
  | nil => exact h
  | cons t rest ih => exact ih (h.wake t)

/-- Changing one task keeps an agenda sound when its fiber stays and each of its deadlines
falls back on a branch it already had. -/
theorem Sound.modifyTask_frames {a : Agenda σ κ} (h : Sound ρ a) (t : Nat)
    (f : Task σ κ → Task σ κ) (hfib : ∀ x, (f x).fiber = x.fiber)
    (hfr : ∀ x, a.tasks[t]? = some x → ∀ fr ∈ (f x).frames, ∃ fr' ∈ x.frames,
      fr'.expired = fr.expired) : Sound ρ (a.modifyTask t f) :=
  h.modifyTask t f fun x hx => by
    obtain ⟨h₁, h₂⟩ := h.1 t x hx
    refine ⟨hfib x ▸ h₁, fun fr hfr' => ?_⟩
    obtain ⟨fr', hmem, heq⟩ := hfr x hx fr hfr'
    exact heq ▸ h₂ fr' hmem

/-- The innermost deadline's branch of a task holds. -/
theorem Sound.innerFrame {a : Agenda σ κ} (h : Sound ρ a) {t : Nat} {f : Frame σ κ}
    (hf : a.innerFrame t = some f) : Holds ρ a.state f.expired := by
  unfold Agenda.innerFrame task? at hf
  split at hf
  · rename_i x hx
    exact (h.1 t x hx).2 f (List.mem_of_mem_head? hf)
  · cases hf

theorem Sound.finish {a : Agenda σ κ} (h : Sound ρ a) (t : Nat) :
    Sound ρ (a.finish t) ∧ (a.finish t).state = a.state := by
  have h₁ : Sound ρ (a.modifyTask t fun x => { x with finished := true, fiber := .done }) :=
    h.modifyTask t _ fun x hx => ⟨Holds.done _, (h.1 t x hx).2⟩
  dsimp only [Agenda.finish]
  split
  · split
    · exact ⟨h₁.wake _, state_wake _ _⟩
    · exact ⟨h₁, rfl⟩
  · exact ⟨h₁, rfl⟩

theorem Sound.push {a : Agenda σ κ} (h : Sound ρ a) {x : Task σ κ} (hx : TaskHolds ρ a.state x) :
    Sound ρ { a with tasks := a.tasks.push x } := by
  refine ⟨fun i y hy => ?_, h.2⟩
  rw [Array.getElem?_push] at hy
  split at hy
  · cases hy
    exact hx
  · exact h.1 i y hy

theorem Sound.fireDue {a : Agenda σ κ} (h : Sound ρ a) : Sound ρ a.fireDue ∧ a.fireDue.state = a.state := by
  unfold Agenda.fireDue
  dsimp only
  rw [← List.foldl_map (g := Agenda.wake)]
  exact (show Sound ρ { a with timers := a.timers.drop _ } from ⟨h.1, h.2⟩).foldl_wake _

theorem Sound.wakeDeferred {a : Agenda σ κ} (h : Sound ρ a) :
    Sound ρ a.wakeDeferred ∧ a.wakeDeferred.state = a.state :=
  (show Sound ρ { a with deferred := [] } from ⟨h.1, h.2⟩).foldl_wake _

theorem Sound.parkYield {a : Agenda σ κ} (h : Sound ρ a) :
    Sound ρ a.parkYield ∧ a.parkYield.state = a.state := by
  obtain ⟨h₁, h₂⟩ := h.fireDue
  obtain ⟨h₃, h₄⟩ := h₁.wakeDeferred
  exact ⟨h₃, h₄.trans h₂⟩

/-- Parking moves the clock and wakes tasks; the state and every task's work stay. -/
theorem Sound.park {a : Agenda σ κ} (h : Sound ρ a) : Sound ρ a.park ∧ a.park.state = a.state := by
  unfold Agenda.park
  split
  · exact h.parkYield
  · dsimp only
    split
    · rename_i tm _ _
      split
      · exact (show Sound ρ { a with now := tm.deadline } from ⟨h.1, h.2⟩).parkYield
      · exact h.parkYield
    · split
      · exact h.parkYield
      · exact (show Sound ρ { a with stalled := true } from ⟨h.1, h.2⟩).parkYield

/-! ## Bookkeeping steps -/

section Steps

variable {h : Host σ κ} (hρ : ρ.Lawful) (hh : h.Keeps ρ)
include hρ hh

theorem Sound.drain {a : Agenda σ κ} (ha : Sound ρ a) :
    Sound ρ (drain h a) ∧ ρ.sched a.state (drain h a).state := by
  have hs := hh.takeWakes a.state
  obtain ⟨h₁, h₂⟩ := (ha.rely (hρ.sched_rely _ _ hs)).foldl_wake (h.takeWakes a.state).1
  exact ⟨h₁, h₂ ▸ hs⟩

theorem Sound.enterTask {a : Agenda σ κ} (ha : Sound ρ a) (t : Nat) :
    Sound ρ (enterTask h a t) ∧ ρ.sched a.state (enterTask h a t).state := by
  unfold Agenda.enterTask
  split
  · rename_i task _
    have hs := hh.enter t task.currentOwner a.now a.state
    exact ⟨ha.rely (hρ.sched_rely _ _ hs), hs⟩
  · exact ⟨ha, hρ.sched_refl _⟩

omit hρ hh in
theorem Sound.consume {a : Agenda σ κ} (ha : Sound ρ a) (t : Nat) (w : Await κ) :
    Sound ρ (a.consume t w) ∧ (a.consume t w).state = a.state := by
  cases w with
  | sleep d =>
    exact ⟨(show Sound ρ (a.cancelTimers t none) from ⟨ha.1, ha.2⟩).modifyTask_flags t
      (fun x => { x with sleeping := false }) (fun _ => rfl) (fun _ => rfl), rfl⟩
  | yield =>
    exact ⟨ha.modifyTask_flags t (fun x => { x with yielded := false }) (fun _ => rfl)
      (fun _ => rfl), rfl⟩
  | «until» c => exact ⟨ha, rfl⟩
  | join j => exact ⟨ha, rfl⟩

theorem Sound.start {a : Agenda σ κ} (ha : Sound ρ a) (parent owner : Nat) {child : Fiber σ κ}
    (hc : Holds ρ a.state child) :
    Sound ρ (start h a parent owner child).1 ∧ ρ.sched a.state (start h a parent owner child).1.state := by
  have hs := hh.spawned parent a.tasks.size a.state
  have h₁ := (ha.rely (hρ.sched_rely _ _ hs)).push (x := ⟨child, owner, [], false, none, false, false, false⟩)
    ⟨hc.rely (hρ.sched_rely _ _ hs), fun _ hfr => nomatch hfr⟩
  exact ⟨h₁.wake _, (state_wake _ _).symm ▸ hs⟩

omit hρ hh in
/-- Arming the innermost deadline of a task keeps an agenda sound. -/
theorem Sound.arm {b : Agenda σ κ} (hb : Sound ρ b) (t : Nat) :
    Sound ρ (match b.innerFrame t with
      | some f =>
        if f.armed then b
        else (b.addTimer f.deadline t (some f.owner)).modifyTask t fun x =>
          { x with frames := { f with armed := true } :: x.frames.drop 1 }
      | none => b) ∧
    (match b.innerFrame t with
      | some f =>
        if f.armed then b
        else (b.addTimer f.deadline t (some f.owner)).modifyTask t fun x =>
          { x with frames := { f with armed := true } :: x.frames.drop 1 }
      | none => b).state = b.state := by
  split
  · rename_i f hf
    split
    · exact ⟨hb, rfl⟩
    · refine ⟨Sound.modifyTask_frames ⟨hb.1, hb.2⟩ t _ (fun _ => rfl) ?_, rfl⟩
      intro x hx fr hfr
      simp only [List.mem_cons] at hfr
      have hx' : b.tasks[t]? = some x := hx
      unfold Agenda.innerFrame task? at hf
      rw [hx'] at hf
      rcases hfr with rfl | hfr
      · exact ⟨f, List.mem_of_mem_head? hf, rfl⟩
      · exact ⟨fr, List.mem_of_mem_drop hfr, rfl⟩
  · exact ⟨hb, rfl⟩

theorem Sound.register {a : Agenda σ κ} (ha : Sound ρ a) (t : Nat) (w : Await κ) :
    Sound ρ (register h a t w) ∧ ρ.sched a.state (register h a t w).state := by
  cases w with
  | «until» c =>
    have hs := hh.listen c t a.state
    obtain ⟨h₁, h₂⟩ := Sound.arm (ha.rely (hρ.sched_rely _ _ hs)) t
    exact ⟨h₁, h₂ ▸ hs⟩
  | sleep d =>
    dsimp only [Agenda.register]
    by_cases hsl : a.flag t (·.sleeping)
    · rw [if_pos hsl]
      obtain ⟨h₁, h₂⟩ := Sound.arm ha t
      exact ⟨h₁, h₂ ▸ hρ.sched_refl _⟩
    · rw [if_neg hsl]
      obtain ⟨h₁, h₂⟩ := Sound.arm (Sound.modifyTask_flags
        (show Sound ρ (a.addTimer d t none) from ⟨ha.1, ha.2⟩) t
        (fun x => { x with sleeping := true }) (fun _ => rfl) (fun _ => rfl)) t
      exact ⟨h₁, h₂ ▸ hρ.sched_refl _⟩
  | join j =>
    obtain ⟨h₁, h₂⟩ := Sound.arm (ha.modifyTask_flags j (fun x => { x with joiner := some t })
      (fun _ => rfl) (fun _ => rfl)) t
    exact ⟨h₁, h₂ ▸ hρ.sched_refl _⟩
  | yield =>
    have h₀ := ha.modifyTask_flags t (fun x => { x with yielded := true }) (fun _ => rfl)
      (fun _ => rfl)
    have hd : Sound ρ ((a.modifyTask t fun x => { x with yielded := true }).defer t) := by
      unfold Agenda.defer
      split
      · exact h₀
      · exact ⟨h₀.1, h₀.2⟩
    have hds : ((a.modifyTask t fun x => { x with yielded := true }).defer t).state = a.state := by
      unfold Agenda.defer
      split <;> rfl
    obtain ⟨h₁, h₂⟩ := Sound.arm hd t
    exact ⟨h₁, (h₂.trans hds) ▸ hρ.sched_refl _⟩

/-- Dropping a task's innermost deadline gives back what its owner held, and hands over
the deadline's branch, which holds. -/
theorem Sound.dropFrame {b : Agenda σ κ} (hb : Sound ρ b) (t : Nat) :
    let r := match b.innerFrame t with
      | some f =>
        let a := (b.cancelTimers t (some f.owner)).modifyTask t fun x =>
          { x with frames := x.frames.drop 1 }
        let a := Agenda.drain h { a with state := h.release f.owner a.state }
        (Agenda.enterTask h a t, f.expired)
      | none => (b, .done)
    Sound ρ r.1 ∧ ρ.rely b.state r.1.state ∧ Holds ρ r.1.state r.2 := by
  dsimp only
  split
  · rename_i f hf
    have he := hb.innerFrame hf
    -- the frame goes, then its owner's holdings are given back, then the task runs again
    have h₁ := Sound.modifyTask_frames (show Sound ρ (b.cancelTimers t (some f.owner)) from
      ⟨hb.1, hb.2⟩) t (fun x => { x with frames := x.frames.drop 1 }) (fun _ => rfl)
      (fun x _ fr hfr => ⟨fr, List.mem_of_mem_drop hfr, rfl⟩)
    have hr₁ := hh.release f.owner b.state
    obtain ⟨h₂, hs₂⟩ := (h₁.rely hr₁).drain hρ hh
    obtain ⟨h₃, hs₃⟩ := h₂.enterTask hρ hh t
    have hr := hρ.rely_trans _ _ _ hr₁ (hρ.sched_rely _ _ (hρ.sched_trans _ _ _ hs₂ hs₃))
    exact ⟨h₃, hr, he.rely hr⟩
  · exact ⟨hb, hρ.rely_refl _, Holds.done _⟩

/-- A task whose deadline passed while it waited is dropped back to the deadline's branch. -/
theorem Sound.expire {a : Agenda σ κ} (ha : Sound ρ a) (t : Nat) (w : Await κ) :
    Sound ρ (expire h a t w).1 ∧ ρ.rely a.state (expire h a t w).1.state ∧
      Holds ρ (expire h a t w).1.state (expire h a t w).2 := by
  have hs := hh.forget t a.state
  have h₀ := ha.rely (hρ.sched_rely _ _ hs)
  -- forgetting the task's registrations and clearing its flags leave its work as it was
  have h₁ := Sound.modifyTask_flags
    (show Sound ρ ({ a with state := h.forget t a.state, deferred := a.deferred.filter (· != t) }.cancelTimers t none)
      from ⟨h₀.1, h₀.2⟩) t (fun x => { x with sleeping := false, yielded := false })
    (fun _ => rfl) (fun _ => rfl)
  cases w with
  | join j =>
    obtain ⟨h₂, hs₂, he⟩ := (h₁.modifyTask_flags j (fun x => { x with joiner := none })
      (fun _ => rfl) (fun _ => rfl)).dropFrame hρ hh t
    exact ⟨h₂, hρ.rely_trans _ _ _ (hρ.sched_rely _ _ hs) hs₂, he⟩
  | «until» c =>
    obtain ⟨h₂, hs₂, he⟩ := h₁.dropFrame hρ hh t
    exact ⟨h₂, hρ.rely_trans _ _ _ (hρ.sched_rely _ _ hs) hs₂, he⟩
  | sleep d =>
    obtain ⟨h₂, hs₂, he⟩ := h₁.dropFrame hρ hh t
    exact ⟨h₂, hρ.rely_trans _ _ _ (hρ.sched_rely _ _ hs) hs₂, he⟩
  | yield =>
    obtain ⟨h₂, hs₂, he⟩ := h₁.dropFrame hρ hh t
    exact ⟨h₂, hρ.rely_trans _ _ _ (hρ.sched_rely _ _ hs) hs₂, he⟩

/-! ## Running a task -/

/-- One task's run, from a fiber safe from what holds now, keeps the agenda sound and
changes the state only as others rely on. The induction is on the fuel; each case is one
request of the fiber, and what the fiber knows is carried from step to step. -/
theorem run_sound (fuel : Nat) : ∀ (a : Agenda σ κ) (t : Nat) (f : Fiber σ κ) (P : σ → Prop),
    Sound ρ a → P a.state → Safe ρ P f →
      Sound ρ (run h fuel a t f) ∧ ρ.rely a.state (run h fuel a t f).state := by
  induction fuel with
  | zero =>
    intro a t f P ha _ _
    exact ⟨⟨ha.1, ha.2⟩, hρ.rely_refl _⟩
  | succ fuel ih =>
    intro a t f P ha hP hf
    have rt := hρ.rely_trans
    have sr := hρ.sched_rely
    cases hf with
    | done =>
      obtain ⟨h₁, h₂⟩ := ha.finish t
      exact ⟨h₁, h₂ ▸ hρ.rely_refl _⟩
    | exec hg hk =>
      rename_i step
      simp only [run]
      have hg' := hg a.state hP
      obtain ⟨h₁, hs₁⟩ := (ha.rely (hρ.guar_rely _ _ hg')).drain hρ hh
      obtain ⟨h₂, hr₂⟩ := ih _ t _ _ h₁ hs₁ (hk a.state hP)
      exact ⟨h₂, rt _ _ _ (hρ.guar_rely _ _ hg') (rt _ _ _ (sr _ _ hs₁) hr₂)⟩
    | wait hk =>
      rename_i w k
      simp only [run]
      split
      · -- the wait is over: go on, with what is known kept
        obtain ⟨h₁, h₂⟩ := ha.consume t w
        rename_i hready
        have hw : ρ.Woken w a.state := by
          cases w with
          | «until» c => exact hh.holds c a.state hready
          | _ => trivial
        obtain ⟨h₃, hr₃⟩ := ih _ t _ _ h₁ (h₂ ▸ ⟨After.of_mem hρ.rely_refl hP, hw⟩) hk
        exact ⟨h₃, h₂ ▸ hr₃⟩
      · split
        · -- the deadline passed: fall back on its branch
          obtain ⟨h₁, hr₁, Q, _, hQ, hQf⟩ := ha.expire hρ hh t w
          obtain ⟨h₂, hr₂⟩ := ih _ t _ Q h₁ hQ hQf
          exact ⟨h₂, rt _ _ _ hr₁ hr₂⟩
        · -- suspend: the task keeps what it knew, closed under what others may do
          obtain ⟨h₁, hs₁⟩ := ha.register hρ hh t w
          refine ⟨h₁.modifyTask t (fun x => { x with fiber := .wait w k })
            fun x hx => ⟨?_, (h₁.1 t x hx).2⟩, sr _ _ hs₁⟩
          exact Holds.of_after hρ hP (sr _ _ hs₁) ((Safe.wait hk).wait_after hρ)
    | spawn hc hk =>
      rename_i child k
      simp only [run]
      have hs₁ := hh.fresh a.state
      obtain ⟨h₂, hs₂⟩ := (ha.rely (sr _ _ hs₁)).start hρ hh t (h.fresh a.state).1
        (Holds.of_after hρ hP (sr _ _ hs₁) hc)
      obtain ⟨h₃, hs₃⟩ := h₂.enterTask hρ hh t
      have hs := hρ.sched_trans _ _ _ (hρ.sched_trans _ _ _ hs₁ hs₂) hs₃
      obtain ⟨h₄, hr₄⟩ := ih _ t _ _ h₃ ⟨a.state, hP, hs⟩ (hk _)
      exact ⟨h₄, rt _ _ _ (sr _ _ hs) hr₄⟩
    | stash hfu hk =>
      rename_i id owner future k
      simp only [run]
      have h₁ : Sound ρ { a with kept := a.kept ++ [(id, owner, future)] } := by
        refine ⟨ha.1, fun e he => ?_⟩
        rcases List.mem_append.1 he with he | he
        · exact ha.2 e he
        · rw [List.mem_singleton.1 he]
          exact Holds.of_after hρ hP (hρ.rely_refl _) hfu
      exact ih _ t _ _ h₁ ⟨a.state, hP, hρ.sched_refl _⟩ hk
    | launch hk =>
      rename_i id k
      simp only [run]
      rcases hfind : a.kept.find? (·.1 == id) with _ | ⟨i, owner, future⟩ <;> simp only [hfind]
      · exact ih _ t _ _ ha ⟨a.state, hP, hρ.sched_refl _⟩ (hk _)
      · have hfu := ha.2 _ (List.mem_of_find?_eq_some hfind)
        have h₁ : Sound ρ { a with kept := a.kept.filter (·.1 != id) } :=
          ⟨ha.1, fun e he => ha.2 e (List.mem_filter.1 he).1⟩
        obtain ⟨h₂, hs₂⟩ := h₁.start hρ hh t owner hfu
        obtain ⟨h₃, hs₃⟩ := h₂.enterTask hρ hh t
        have hs := hρ.sched_trans _ _ _ hs₂ hs₃
        obtain ⟨h₄, hr₄⟩ := ih _ t _ _ h₃ ⟨a.state, hP, hs⟩ (hk _)
        exact ⟨h₄, rt _ _ _ (sr _ _ hs) hr₄⟩
    | discard hk =>
      rename_i id k
      simp only [run]
      rcases hfind : a.kept.find? (·.1 == id) with _ | ⟨i, owner, future⟩ <;> simp only [hfind]
      · exact ih _ t _ _ ha ⟨a.state, hP, hρ.rely_refl _⟩ hk
      · have h₁ : Sound ρ { a with kept := a.kept.filter (·.1 != id) } :=
          ⟨ha.1, fun e he => ha.2 e (List.mem_filter.1 he).1⟩
        have hr₁ := hh.release owner a.state
        obtain ⟨h₂, hs₂⟩ := (h₁.rely hr₁).drain hρ hh
        have hr := rt _ _ _ hr₁ (sr _ _ hs₂)
        obtain ⟨h₃, hr₃⟩ := ih _ t _ _ h₂ ⟨a.state, hP, hr⟩ hk
        exact ⟨h₃, rt _ _ _ hr hr₃⟩
    | timed hb he =>
      rename_i ms body expired
      simp only [run]
      have hs₁ := hh.fresh a.state
      have h₁ := (ha.rely (sr _ _ hs₁)).modifyTask t
        (fun x => { x with frames := ⟨a.now + ms, expired, (h.fresh a.state).1, false⟩ :: x.frames })
        fun x hx => by
        refine ⟨((ha.rely (sr _ _ hs₁)).1 t x hx).1, fun fr hfr => ?_⟩
        rcases List.mem_cons.1 hfr with rfl | hfr
        · exact Holds.of_after hρ hP (sr _ _ hs₁) he
        · exact ((ha.rely (sr _ _ hs₁)).1 t x hx).2 fr hfr
      obtain ⟨h₂, hs₂⟩ := h₁.enterTask hρ hh t
      have hs := hρ.sched_trans _ _ _ hs₁ hs₂
      obtain ⟨h₃, hr₃⟩ := ih _ t _ _ h₂ ⟨a.state, hP, hs⟩ hb
      exact ⟨h₃, rt _ _ _ (sr _ _ hs) hr₃⟩
    | untimed hk =>
      rename_i k
      simp only [run]
      split
      · rename_i fr hfr
        have h₁ := Sound.modifyTask_frames
          (show Sound ρ (a.cancelTimers t (some fr.owner)) from ⟨ha.1, ha.2⟩) t
          (fun x => { x with frames := x.frames.drop 1 }) (fun _ => rfl)
          (fun x _ fr hfr => ⟨fr, List.mem_of_mem_drop hfr, rfl⟩)
        obtain ⟨h₂, hs₂⟩ := h₁.enterTask hρ hh t
        obtain ⟨h₃, hr₃⟩ := ih _ t _ _ h₂ ⟨a.state, hP, hs₂⟩ hk
        exact ⟨h₃, rt _ _ _ (sr _ _ hs₂) hr₃⟩
      · exact ih _ t _ _ ha ⟨a.state, hP, hρ.sched_refl _⟩ hk

/-! ## Rounds -/

/-- Resuming a task runs it from its stored fiber, whose knowledge still holds. -/
theorem Sound.resume {a : Agenda σ κ} (ha : Sound ρ a) (fuel t : Nat) :
    Sound ρ (resume h fuel a t) ∧ ρ.rely a.state (resume h fuel a t).state := by
  unfold Agenda.resume
  split
  · rename_i x hx
    split
    · exact ⟨ha, hρ.rely_refl _⟩
    · obtain ⟨P, hPs, hP, hf⟩ := (ha.1 t x hx).1
      obtain ⟨h₁, hs₁⟩ := ha.enterTask hρ hh t
      obtain ⟨h₂, hr₂⟩ := run_sound hρ hh fuel _ t _ P h₁ (hPs _ _ hP (hρ.sched_rely _ _ hs₁)) hf
      exact ⟨h₂, hρ.rely_trans _ _ _ (hρ.sched_rely _ _ hs₁) hr₂⟩
  · exact ⟨ha, hρ.rely_refl _⟩

theorem Sound.pollQueue {a : Agenda σ κ} (ha : Sound ρ a) (fuel n : Nat) :
    Sound ρ (pollQueue h fuel n a) ∧ ρ.rely a.state (pollQueue h fuel n a).state := by
  induction n generalizing a with
  | zero =>
    obtain ⟨h₁, h₂⟩ := ha.parkYield
    exact ⟨h₁, h₂ ▸ hρ.rely_refl _⟩
  | succ n ih =>
    unfold Agenda.pollQueue
    split
    · obtain ⟨h₁, h₂⟩ := ha.park
      exact ⟨h₁, h₂ ▸ hρ.rely_refl _⟩
    · rename_i t rest _
      have h₁ := (show Sound ρ { a with queue := rest } from ⟨ha.1, ha.2⟩).modifyTask_flags t
        (fun x => { x with queued := false }) (fun _ => rfl) (fun _ => rfl)
      obtain ⟨h₂, hr₂⟩ := h₁.resume hρ hh fuel t
      obtain ⟨h₃, hr₃⟩ := ih h₂
      exact ⟨h₃, hρ.rely_trans _ _ _ hr₂ hr₃⟩

/-- Rounds of the agenda keep it sound and change the state only as tasks rely on. -/
theorem loop_sound (fuel : Nat) : ∀ (a : Agenda σ κ), Sound ρ a →
    Sound ρ (loop h fuel a) ∧ ρ.rely a.state (loop h fuel a).state := by
  induction fuel with
  | zero => intro a ha; exact ⟨⟨ha.1, ha.2⟩, hρ.rely_refl _⟩
  | succ fuel ih =>
    intro a ha
    unfold Agenda.loop
    split
    · exact ⟨ha, hρ.rely_refl _⟩
    · -- the main fiber first, if it was woken, then up to 61 queued tasks
      have hm : Sound ρ (if a.mainWoken then resume h fuel { a with mainWoken := false } 0 else a) ∧
          ρ.rely a.state (if a.mainWoken then resume h fuel { a with mainWoken := false } 0 else a).state := by
        split
        · exact (show Sound ρ { a with mainWoken := false } from ⟨ha.1, ha.2⟩).resume hρ hh fuel 0
        · exact ⟨ha, hρ.rely_refl _⟩
      dsimp only
      obtain ⟨hb, hrb⟩ := hm
      generalize (if a.mainWoken then resume h fuel { a with mainWoken := false } 0 else a) = b
        at hb hrb ⊢
      split
      · exact ⟨hb, hrb⟩
      · obtain ⟨h₁, hr₁⟩ := hb.pollQueue hρ hh fuel 61
        obtain ⟨h₂, hr₂⟩ := ih _ h₁
        exact ⟨h₂, hρ.rely_trans _ _ _ hrb (hρ.rely_trans _ _ _ hr₁ hr₂)⟩

/-- A whole run of a main fiber that keeps to the rules, from a state where what it knows
holds, changes the state only as tasks rely on, and leaves every task sound. -/
theorem runMain_sound (fuel : Nat) {s : σ} {main : Fiber σ κ} {P : σ → Prop}
    (hP : Stable ρ.rely P) (hs : P s) (hm : Safe ρ P main) :
    Sound ρ (runMain h fuel s main) ∧ ρ.rely s (runMain h fuel s main).state := by
  have hs₁ := hh.fresh s
  have h₀ : Sound ρ ({ state := (h.fresh s).2, tasks := #[⟨main, (h.fresh s).1, [], false, none,
      false, false, false⟩] } : Agenda σ κ) := by
    refine ⟨fun t x hx => ?_, fun e he => nomatch he⟩
    rcases t with _ | t
    · cases hx
      exact ⟨⟨P, hP, hP _ _ hs (hρ.sched_rely _ _ hs₁), hm⟩, fun _ hfr => nomatch hfr⟩
    · simp at hx
  obtain ⟨h₁, hr₁⟩ := loop_sound hρ hh fuel _ h₀
  exact ⟨h₁, hρ.rely_trans _ _ _ (hρ.sched_rely _ _ hs₁) hr₁⟩

end Steps

end Agenda

end TxnCoord
