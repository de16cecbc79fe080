import TxnCoord.Fiber.Agenda
/-!
# Fibers that keep to rules

A fiber shares its state with other tasks, and the scheduler keeps books in the same
state. What may happen to the state is said by three relations (`Rules`):

* `guar`: what one atomic step of the fiber may do;
* `sched`: what the scheduler's bookkeeping may do between two steps of one run of the
  fiber, when no other task runs;
* `rely`: what may happen while the fiber waits, other tasks included.

`Safe ρ P f` says that `f`, started in a state that satisfies `P`, takes only steps that
`ρ.guar` allows, and so does every task it starts. What a fiber learns by reading the state
stays true until it next waits, up to the scheduler's bookkeeping; after a wait only what
`ρ.rely` keeps is left, together with what the end of the wait tells (`ρ.woken`: the
condition it waited on holds). Dropping a kept future gives back what it held, as another
task would, so only what `ρ.rely` keeps survives it.

`Triple ρ P x Q` lifts this to code written in `Async`: every continuation that is safe
from `Q` makes `x` safe from `P`. The rules below give one triple per kind of request, and
the usual rules of sequencing and consequence.

    Triple ρ P x Q → (∀ a, Triple ρ (Q a) (f a) T) → Triple ρ P (x >>= f) T   (Triple.bind)
    (∀ s, P s → ρ.guar s (f s).2) → Triple ρ P (modifyGet f) …               (Triple.modifyGet)
-/

namespace TxnCoord

variable {σ κ α β : Type}

/-- The states reached from one that satisfies `P` by a change that `R` allows. -/
def After (R : σ → σ → Prop) (P : σ → Prop) (s : σ) : Prop := ∃ s₀, P s₀ ∧ R s₀ s

/-- A property that every change allowed by `R` keeps. -/
def Stable (R : σ → σ → Prop) (P : σ → Prop) : Prop := ∀ s s', P s → R s s' → P s'

/-- What a fiber may do, what the scheduler may do between its steps, what it must put up
with while it waits, and what it learns when a wait on a condition ends. -/
structure Rules (σ κ : Type) where
  rely : σ → σ → Prop
  sched : σ → σ → Prop
  guar : σ → σ → Prop
  woken : κ → σ → Prop

/-- The laws that make rules fit together: every relation is a preorder, and the
fiber's steps and the scheduler's bookkeeping are both changes that others rely on. -/
structure Rules.Lawful (ρ : Rules σ κ) : Prop where
  rely_refl : ∀ s, ρ.rely s s
  rely_trans : ∀ s t u, ρ.rely s t → ρ.rely t u → ρ.rely s u
  sched_refl : ∀ s, ρ.sched s s
  sched_trans : ∀ s t u, ρ.sched s t → ρ.sched t u → ρ.sched s u
  guar_refl : ∀ s, ρ.guar s s
  sched_rely : ∀ s t, ρ.sched s t → ρ.rely s t
  guar_rely : ∀ s t, ρ.guar s t → ρ.rely s t

/-- The laws that rules for one fiber need: every relation is a preorder, and the
scheduler's bookkeeping is a change the fiber relies on. The fiber's own steps need not be
changes that it relies on, so rules for one fiber may allow it what they forbid the others. -/
structure Rules.Local (ρ : Rules σ κ) : Prop where
  rely_refl : ∀ s, ρ.rely s s
  rely_trans : ∀ s t u, ρ.rely s t → ρ.rely t u → ρ.rely s u
  sched_refl : ∀ s, ρ.sched s s
  sched_trans : ∀ s t u, ρ.sched s t → ρ.sched t u → ρ.sched s u
  guar_refl : ∀ s, ρ.guar s s
  sched_rely : ∀ s t, ρ.sched s t → ρ.rely s t

theorem Rules.Lawful.toLocal {ρ : Rules σ κ} (hρ : ρ.Lawful) : ρ.Local :=
  ⟨hρ.rely_refl, hρ.rely_trans, hρ.sched_refl, hρ.sched_trans, hρ.guar_refl, hρ.sched_rely⟩

/-- What the end of a wait tells: a condition waited on holds; a deadline, a task or a turn
tells nothing about the state. -/
def Rules.Woken (ρ : Rules σ κ) : Await κ → σ → Prop
  | .until c => ρ.woken c
  | _ => fun _ => True

/-- `Safe ρ P f`: started in a state satisfying `P`, every step of `f` and of the tasks it
starts is allowed by `ρ.guar`. -/
inductive Safe (ρ : Rules σ κ) : (σ → Prop) → Fiber σ κ → Prop
  | done {P : σ → Prop} : Safe ρ P .done
  | exec {P : σ → Prop} {step : σ → σ × Fiber σ κ} :
      (∀ s, P s → ρ.guar s (step s).1) →
      (∀ s, P s → Safe ρ (ρ.sched (step s).1) (step s).2) → Safe ρ P (.exec step)
  | wait {P : σ → Prop} {w : Await κ} {k : Fiber σ κ} :
      Safe ρ (fun s => After ρ.rely P s ∧ ρ.Woken w s) k → Safe ρ P (.wait w k)
  | spawn {P : σ → Prop} {child : Fiber σ κ} {k : Nat → Fiber σ κ} :
      Safe ρ (After ρ.rely P) child → (∀ n, Safe ρ (After ρ.sched P) (k n)) →
      Safe ρ P (.spawn child k)
  | stash {P : σ → Prop} {id owner : Nat} {future k : Fiber σ κ} :
      Safe ρ (After ρ.rely P) future → Safe ρ (After ρ.sched P) k →
      Safe ρ P (.stash id owner future k)
  | launch {P : σ → Prop} {id : Nat} {k : Option Nat → Fiber σ κ} :
      (∀ r, Safe ρ (After ρ.sched P) (k r)) → Safe ρ P (.launch id k)
  | discard {P : σ → Prop} {id : Nat} {k : Fiber σ κ} :
      Safe ρ (After ρ.rely P) k → Safe ρ P (.discard id k)
  | timed {P : σ → Prop} {ms : Nat} {body expired : Fiber σ κ} :
      Safe ρ (After ρ.sched P) body → Safe ρ (After ρ.rely P) expired →
      Safe ρ P (.timed ms body expired)
  | untimed {P : σ → Prop} {k : Fiber σ κ} :
      Safe ρ (After ρ.sched P) k → Safe ρ P (.untimed k)

namespace After

variable {R : σ → σ → Prop} {P P' : σ → Prop}

theorem of_mem (hR : ∀ s, R s s) {s : σ} (h : P s) : After R P s := ⟨s, h, hR s⟩

theorem mono (h : ∀ s, P' s → P s) {s : σ} : After R P' s → After R P s := by
  rintro ⟨s₀, h₀, hr⟩
  exact ⟨s₀, h _ h₀, hr⟩

theorem after (hR : ∀ s t u, R s t → R t u → R s u) {s : σ} :
    After R (After R P) s → After R P s := by
  rintro ⟨t, ⟨s₀, h₀, h₁⟩, h₂⟩
  exact ⟨s₀, h₀, hR _ _ _ h₁ h₂⟩

theorem widen {R' : σ → σ → Prop} (h : ∀ s t, R s t → R' s t) {s : σ} :
    After R P s → After R' P s := by
  rintro ⟨s₀, h₀, hr⟩
  exact ⟨s₀, h₀, h _ _ hr⟩

theorem stable (hR : ∀ s t u, R s t → R t u → R s u) : Stable R (After R P) := by
  intro s s' hs hr
  obtain ⟨s₀, h₀, h₁⟩ := hs
  exact ⟨s₀, h₀, hR _ _ _ h₁ hr⟩

theorem of_stable (hP : Stable R P) {s : σ} : After R P s → P s := by
  rintro ⟨s₀, h₀, hr⟩
  exact hP _ _ h₀ hr

end After

namespace Stable

variable {R : σ → σ → Prop} {P Q : σ → Prop}

theorem and (hP : Stable R P) (hQ : Stable R Q) : Stable R fun s => P s ∧ Q s :=
  fun _ _ ⟨hp, hq⟩ hr => ⟨hP _ _ hp hr, hQ _ _ hq hr⟩

/-- A fact that no state changes may stand beside what is stable. -/
theorem const_and (c : Prop) (hP : Stable R P) : Stable R fun s => c ∧ P s :=
  fun _ _ ⟨hc, hp⟩ hr => ⟨hc, hP _ _ hp hr⟩

end Stable

namespace Safe

variable {ρ : Rules σ κ}

/-- Knowing more about the start never hurts. -/
theorem mono {P : σ → Prop} {f : Fiber σ κ} (h : Safe ρ P f) :
    ∀ {P' : σ → Prop}, (∀ s, P' s → P s) → Safe ρ P' f := by
  induction h with
  | done => intro _ _; exact .done
  | exec hg _ ih =>
    intro P' hP
    exact .exec (fun s hs => hg s (hP s hs)) (fun s hs => ih s (hP s hs) fun _ h => h)
  | wait _ ih => intro P' hP; exact .wait (ih (fun s hs => ⟨After.mono hP hs.1, hs.2⟩))
  | spawn _ _ ihc ihk =>
    intro P' hP
    exact .spawn (ihc (fun s => After.mono hP)) (fun n => ihk n (fun s => After.mono hP))
  | stash _ _ ihf ihk =>
    intro P' hP
    exact .stash (ihf (fun s => After.mono hP)) (ihk (fun s => After.mono hP))
  | launch _ ih => intro P' hP; exact .launch (fun r => ih r (fun s => After.mono hP))
  | discard _ ih => intro P' hP; exact .discard (ih (fun s => After.mono hP))
  | timed _ _ ihb ihe =>
    intro P' hP
    exact .timed (ihb (fun s => After.mono hP)) (ihe (fun s => After.mono hP))
  | untimed _ ih => intro P' hP; exact .untimed (ih (fun s => After.mono hP))

/-- A fiber that is safe from anything is safe from wherever it starts. -/
theorem of_true {P : σ → Prop} {f : Fiber σ κ} (h : Safe ρ (fun _ => True) f) : Safe ρ P f :=
  h.mono fun _ _ => trivial

/-- A fiber suspended on a wait may wait on: what it knew before is still known, up to
what others may change. -/
theorem wait_after (hρ : ρ.Lawful) {P : σ → Prop} {w : Await κ} {k : Fiber σ κ}
    (h : Safe ρ P (.wait w k)) : Safe ρ (After ρ.rely P) (.wait w k) := by
  cases h with
  | wait hk => exact .wait (hk.mono fun s hs => ⟨After.after hρ.rely_trans hs.1, hs.2⟩)

/-- From no state at all, every fiber is safe. -/
theorem of_false : (f : Fiber σ κ) → Safe ρ (fun _ => False) f
  | .done => .done
  | .exec _ => .exec (fun _ h => h.elim) (fun _ h => h.elim)
  | .wait _ k => .wait ((of_false k).mono fun _ ⟨⟨_, h, _⟩, _⟩ => h)
  | .spawn child k => .spawn ((of_false child).mono fun _ ⟨_, h, _⟩ => h)
      fun n => (of_false (k n)).mono fun _ ⟨_, h, _⟩ => h
  | .stash _ _ future k => .stash ((of_false future).mono fun _ ⟨_, h, _⟩ => h)
      ((of_false k).mono fun _ ⟨_, h, _⟩ => h)
  | .launch _ k => .launch fun r => (of_false (k r)).mono fun _ ⟨_, h, _⟩ => h
  | .discard _ k => .discard ((of_false k).mono fun _ ⟨_, h, _⟩ => h)
  | .timed _ body expired => .timed ((of_false body).mono fun _ ⟨_, h, _⟩ => h)
      ((of_false expired).mono fun _ ⟨_, h, _⟩ => h)
  | .untimed k => .untimed ((of_false k).mono fun _ ⟨_, h, _⟩ => h)

end Safe

/-! ## Triples -/

/-- `Triple ρ P x Q`: started from a state satisfying `P`, `x` keeps to `ρ`, and hands its
continuation a value `a` in a state satisfying `Q a`. -/
def Triple (ρ : Rules σ κ) (P : σ → Prop) (x : Async σ κ α) (Q : α → σ → Prop) : Prop :=
  ∀ k : α → Fiber σ κ, (∀ a, Safe ρ (Q a) (k a)) → Safe ρ P (x k)

namespace Async

theorem pure_apply (a : α) (k : α → Fiber σ κ) : (pure a : Async σ κ α) k = k a := rfl

theorem bind_apply (x : Async σ κ α) (f : α → Async σ κ β) (k : β → Fiber σ κ) :
    (x >>= f) k = x (fun a => f a k) := rfl

end Async

namespace Triple

variable {ρ : Rules σ κ} {P P' : σ → Prop} {Q Q' : α → σ → Prop}

theorem pure (a : α) : Triple ρ (Q a) (Pure.pure a : Async σ κ α) Q := fun _ hk => hk a

theorem pure_of {a : α} (h : ∀ s, P s → Q a s) : Triple ρ P (Pure.pure a : Async σ κ α) Q :=
  fun _ hk => (hk a).mono h

theorem bind {x : Async σ κ α} {f : α → Async σ κ β} {T : β → σ → Prop}
    (hx : Triple ρ P x Q) (hf : ∀ a, Triple ρ (Q a) (f a) T) : Triple ρ P (x >>= f) T :=
  fun k hk => hx _ fun a => hf a k hk

theorem conseq {x : Async σ κ α} (h : Triple ρ P x Q) (hP : ∀ s, P' s → P s)
    (hQ : ∀ a s, Q a s → Q' a s) : Triple ρ P' x Q' :=
  fun k hk => (h k fun a => (hk a).mono (hQ a)).mono hP

theorem pre {x : Async σ κ α} (h : Triple ρ P x Q) (hP : ∀ s, P' s → P s) : Triple ρ P' x Q :=
  h.conseq hP fun _ _ hq => hq

theorem post {x : Async σ κ α} (h : Triple ρ P x Q) (hQ : ∀ a s, Q a s → Q' a s) :
    Triple ρ P x Q' :=
  h.conseq (fun _ hp => hp) hQ

/-- A fact that every start satisfies may be assumed. -/
theorem of_fact {R : Prop} {x : Async σ κ α} (h : R → Triple ρ P x Q) :
    Triple ρ (fun s => R ∧ P s) x Q := by
  intro k hk
  by_cases hR : R
  · exact (h hR k hk).mono fun _ hs => hs.2
  · exact (Safe.of_false (x k)).mono fun _ hs => hR hs.1

/-- A fact that follows from every start may be assumed. -/
theorem of_pre_fact {R : Prop} {x : Async σ κ α} (hR : ∀ s, P s → R) (h : R → Triple ρ P x Q) :
    Triple ρ P x Q :=
  (of_fact h).pre fun s hs => ⟨hR s hs, hs⟩

/-! ## One triple per request -/

/-- Reading the state hands over the state itself, which stays as read up to the
scheduler's bookkeeping. -/
theorem get_of_refl (hg : ∀ s, ρ.guar s s) :
    Triple ρ P (MonadStateOf.get : Async σ κ σ) (fun a s => P a ∧ ρ.sched a s) := by
  intro k hk
  exact .exec (fun s _ => hg s) (fun s hs => (hk s).mono fun _ h => ⟨hs, h⟩)

theorem get (hρ : ρ.Lawful) : Triple ρ P (MonadStateOf.get : Async σ κ σ) (fun a s => P a ∧ ρ.sched a s) :=
  get_of_refl hρ.guar_refl

/-- A change of the state is one step, which `ρ.guar` must allow. -/
theorem modifyGet {f : σ → α × σ} (hf : ∀ s, P s → ρ.guar s (f s).2) :
    Triple ρ P (MonadStateOf.modifyGet f : Async σ κ α)
      (fun a s' => ∃ s, P s ∧ (f s).1 = a ∧ ρ.sched (f s).2 s') := by
  intro k hk
  exact .exec (fun s hs => hf s hs) (fun s hs => (hk (f s).1).mono fun _ h => ⟨s, hs, rfl, h⟩)

/-- A change that hands back nothing. -/
theorem modify {f : σ → σ} (hf : ∀ s, P s → ρ.guar s (f s)) :
    Triple ρ P (modify f : Async σ κ Unit) (fun _ s' => ∃ s, P s ∧ ρ.sched (f s) s') := by
  intro k hk
  exact .exec (fun s hs => hf s hs) (fun s hs => (hk ()).mono fun _ h => ⟨s, hs, h⟩)

/-- A wait hands over to other tasks: afterwards only what they keep is known, and what
the end of the wait tells. -/
theorem await (w : Await κ) :
    Triple ρ P (Async.await w : Async σ κ Unit) (fun _ s => After ρ.rely P s ∧ ρ.Woken w s) :=
  fun _ hk => .wait (hk ())

/-- A task started here must keep to the same rules, from what is known now. -/
theorem spawn {child : Fiber σ κ} (hc : Safe ρ (After ρ.rely P) child) :
    Triple ρ P (Async.spawn child) (fun _ => After ρ.sched P) :=
  fun _ hk => .spawn hc hk

/-- A kept future must keep to the rules from what is known now. -/
theorem stash {id owner : Nat} {future : Fiber σ κ} (hf : Safe ρ (After ρ.rely P) future) :
    Triple ρ P (Async.stash id owner future) (fun _ => After ρ.sched P) :=
  fun _ hk => .stash hf (hk ())

theorem launch (id : Nat) : Triple ρ P (Async.launch id : Async σ κ (Option Nat))
    (fun _ => After ρ.sched P) :=
  fun _ hk => .launch hk

/-- Dropping a kept future gives back what it held, which others may have waited for. -/
theorem discard (id : Nat) :
    Triple ρ P (Async.discard id : Async σ κ Unit) (fun _ => After ρ.rely P) :=
  fun _ hk => .discard (hk ())

/-- Code under a deadline: it either finishes, or is dropped and what follows runs after
other tasks did. -/
theorem timeout {ms : Nat} {x : Async σ κ α} (hx : Triple ρ (After ρ.sched P) x Q) :
    Triple ρ P (Async.timeout ms x) (fun r => match r with
      | some a => After ρ.sched (Q a)
      | none => After ρ.rely P) := by
  intro k hk
  exact .timed (hx _ fun a => .untimed (hk (some a))) (hk none)

/-- A loop over a list keeps an invariant that each round keeps. -/
theorem forEach {xs : List β} {f : β → Async σ κ Unit} (hf : ∀ b ∈ xs, Triple ρ P (f b) (fun _ => P)) :
    Triple ρ P (Async.forEach xs f) (fun _ => P) := by
  induction xs with
  | nil => exact Triple.pure ()
  | cons b rest ih =>
    exact Triple.bind (hf b (List.mem_cons_self ..))
      (fun _ => ih fun c hc => hf c (List.mem_cons_of_mem _ hc))

end Triple

end TxnCoord
