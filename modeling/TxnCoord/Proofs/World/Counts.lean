import Mathlib.Data.List.Perm.Basic
import TxnCoord.Proofs.Transaction.Tickets
import TxnCoord.Proofs.Manager.Requests

/-!
# Pending counts

A handle's `pending` field counts its statement runs that have started and not yet ended.
Each such run also lists a `.pending h` hold under the owner that runs it, so the count can be
read back from the holds: `World.Counted` says that every count is the number of runs held.

The changes of the world sort into three kinds:

* `World.Neutral`: every step of code that counts no run. Counts, runs held and the running
  owner stay as they were.
* `World.SameCount`: the scheduler's own bookkeeping. It keeps counts and runs but may change
  the owner.
* `World.KeepsCount`: counting a run in, giving one back, and dropping a fiber, which gives back
  every run its owner held. These keep `Counted` true without keeping the numbers.

`countRules` packs the last two into the rules of `Fiber.Rules`, and
`World.host_keeps_countRules` shows the scheduler keeps to them.

    w.Counted → (w.releaseOwner o).Counted                        (Counted.releaseOwner)
    w.Counted → ((w.releaseOwner o).handle h).pending
                  = (w.handle h).pending - w.heldBy o h          (pending_releaseOwner)
-/

namespace TxnCoord

namespace World

/-- The statement runs of handle `h` that running code holds as pending. -/
def pendingHeld (w : World) (h : Nat) : Nat := w.holds.countP fun e => e.2 == .pending h

/-- The statement runs of handle `h` that owner `o` holds as pending. -/
def heldBy (w : World) (o h : Nat) : Nat := w.holds.countP fun e => e == (o, .pending h)

/-- Every handle's pending count is the number of its statement runs that running code
holds. A number out of range names no handle, and no run of it is held. -/
def Counted (w : World) : Prop := ∀ h, (w.handle h).pending = w.pendingHeld h

@[simp] theorem holds_hold (w : World) (x : Hold) : (w.hold x).holds = w.holds ++ [(w.owner, x)] :=
  rfl

/-- Giving a resource back removes one entry listing it, if there is one. -/
theorem unhold_cases (w : World) (x : Hold) :
    (w.unhold x = w ∧ ∀ e ∈ w.holds, e.2 ≠ x) ∨
      ∃ e hs, e.2 = x ∧ (e :: hs).Perm w.holds ∧ w.unhold x = { w with holds := hs } := by
  unfold unhold
  split
  next i hi =>
    obtain ⟨hlt, hp, -⟩ := List.findIdx?_eq_some_iff_getElem.1 hi
    simp only [Bool.and_eq_true, beq_iff_eq] at hp
    exact .inr ⟨_, _, hp.2, List.getElem_cons_eraseIdx_perm hlt, rfl⟩
  next =>
    split
    next i hi =>
      obtain ⟨hlt, hp, -⟩ := List.findIdx?_eq_some_iff_getElem.1 hi
      simp only [beq_iff_eq] at hp
      exact .inr ⟨_, _, hp, List.getElem_cons_eraseIdx_perm hlt, rfl⟩
    next hnone =>
      refine .inl ⟨rfl, fun e he hex => ?_⟩
      have hfalse := List.findIdx?_eq_none_iff.1 hnone e he
      simp [hex] at hfalse

/-- Giving a resource back keeps the number of entries of every kind that does not list it. -/
theorem countP_unhold (w : World) (x : Hold) {p : Nat × Hold → Bool}
    (hp : ∀ e : Nat × Hold, e.2 = x → p e = false) :
    (w.unhold x).holds.countP p = w.holds.countP p := by
  rcases w.unhold_cases x with ⟨he, -⟩ | ⟨e, hs, hex, hperm, he⟩
  · rw [he]
  · rw [he, ← hperm.countP_eq p, List.countP_cons, hp e hex]
    simp

/-- Giving back a pending run of handle `h` removes one, when one is held. -/
theorem pendingHeld_unhold_pending (w : World) (h : Nat) :
    (w.unhold (.pending h)).pendingHeld h = w.pendingHeld h - 1 := by
  unfold pendingHeld
  rcases w.unhold_cases (.pending h) with ⟨he, hnone⟩ | ⟨e, hs, hex, hperm, he⟩
  · have hzero : w.holds.countP (fun e => e.2 == .pending h) = 0 :=
      List.countP_eq_zero.2 fun e hmem => by simpa using hnone e hmem
    rw [he, hzero]
  · rw [he, ← hperm.countP_eq, List.countP_cons, hex]
    simp

/-- Giving back a pending run of handle `h` removes one of the running owner's, when it holds
one. -/
theorem heldBy_unhold_pending (w : World) (h : Nat) (hpos : 0 < w.heldBy w.owner h) :
    (w.unhold (.pending h)).heldBy w.owner h = w.heldBy w.owner h - 1 := by
  unfold unhold heldBy
  split
  next i hi =>
    obtain ⟨hlt, hp, -⟩ := List.findIdx?_eq_some_iff_getElem.1 hi
    have he : w.holds[i] = (w.owner, .pending h) := by
      simp only [Bool.and_eq_true, beq_iff_eq] at hp
      exact Prod.ext hp.1 hp.2
    rw [← (List.getElem_cons_eraseIdx_perm hlt).countP_eq, List.countP_cons, he]
    simp
  next hnone =>
    -- the owner holds such an entry, so the search for one does not fail
    obtain ⟨e, hmem, he⟩ := List.countP_pos_iff.1 hpos
    have hfalse := List.findIdx?_eq_none_iff.1 hnone e hmem
    simp only [beq_iff_eq] at he
    subst he
    simp at hfalse

/-- A change that removes no handle, and leaves every handle's pending count, the runs held
of it and those each owner holds as they were. -/
structure SameCount (s s' : World) : Prop where
  size : s.handles.size ≤ s'.handles.size
  pending : ∀ h, (s'.handle h).pending = (s.handle h).pending
  held : ∀ h, s'.pendingHeld h = s.pendingHeld h
  owned : ∀ o h, s'.heldBy o h = s.heldBy o h

/-- A change that removes no handle and keeps the counts true. -/
structure KeepsCount (s s' : World) : Prop where
  size : s.handles.size ≤ s'.handles.size
  counted : s.Counted → s'.Counted

namespace SameCount

theorem refl (s : World) : SameCount s s :=
  ⟨Nat.le_refl _, fun _ => rfl, fun _ => rfl, fun _ _ => rfl⟩

theorem trans {a b c : World} (h₁ : SameCount a b) (h₂ : SameCount b c) : SameCount a c :=
  ⟨Nat.le_trans h₁.size h₂.size, fun h => (h₂.pending h).trans (h₁.pending h),
    fun h => (h₂.held h).trans (h₁.held h), fun o h => (h₂.owned o h).trans (h₁.owned o h)⟩

theorem counted {s s' : World} (hs : SameCount s s') (hc : s.Counted) : s'.Counted := fun h => by
  rw [hs.pending, hs.held]
  exact hc h

theorem keepsCount {s s' : World} (hs : SameCount s s') : KeepsCount s s' :=
  ⟨hs.size, hs.counted⟩

/-- A change of the handles that keeps their number and every pending count, with the holds
changed only in entries that are no pending run. -/
theorem of_holds {s s' : World} (hsize : s'.handles.size = s.handles.size)
    (hpend : ∀ h, (s'.handle h).pending = (s.handle h).pending)
    (hholds : ∀ p : Nat × Hold → Bool, (∀ e : Nat × Hold, (∀ h, e.2 ≠ .pending h) → p e = false) →
      s'.holds.countP p = s.holds.countP p) : SameCount s s' := by
  refine ⟨Nat.le_of_eq hsize.symm, hpend, fun h => hholds _ fun e he => ?_,
    fun o h => hholds _ fun e he => ?_⟩
  · exact beq_false_of_ne (he h)
  · exact beq_false_of_ne fun heq => he h (by rw [heq])

end SameCount

theorem KeepsCount.refl (s : World) : KeepsCount s s := (SameCount.refl s).keepsCount

theorem KeepsCount.trans {a b c : World} (h₁ : KeepsCount a b) (h₂ : KeepsCount b c) :
    KeepsCount a c :=
  ⟨Nat.le_trans h₁.size h₂.size, fun hc => h₂.counted (h₁.counted hc)⟩

theorem sameCount_of_handles {s s' : World} (hh : s'.handles = s.handles) (hl : s'.holds = s.holds) :
    SameCount s s' :=
  SameCount.of_holds (by rw [hh]) (fun h => by rw [handle_of_handles hh]) fun _ _ => by rw [hl]

theorem sameCount_modifyHandle (w : World) (i : Nat) {g : Handle → Handle}
    (hg : ∀ hd, (g hd).pending = hd.pending) : SameCount w (w.modifyHandle i g) :=
  SameCount.of_holds (by simp [World.modifyHandle])
    (handle_rel_modifyHandle (fun a b => b.pending = a.pending) (fun _ => rfl) w i g (hg _))
    fun _ _ => rfl

/-- A resource that is no pending run, listed or given back, leaves the counts alone. -/
theorem sameCount_hold (w : World) {x : Hold} (hx : ∀ h, x ≠ .pending h) : SameCount w (w.hold x) :=
  SameCount.of_holds rfl (fun _ => rfl) fun p hp => by
    rw [holds_hold, List.countP_append, List.countP_singleton, hp _ hx]
    simp

theorem sameCount_unhold (w : World) {x : Hold} (hx : ∀ h, x ≠ .pending h) :
    SameCount w (w.unhold x) :=
  SameCount.of_holds (by rw [handles_unhold]) (fun h => by rw [handle_of_handles (handles_unhold w x)])
    fun _ hp => w.countP_unhold x fun e he => hp e fun h => he ▸ hx h

theorem sameCount_releaseTicket (w : World) (i n : Nat) : SameCount w (w.releaseTicket i n) := by
  let g : Handle → Handle := fun hd => { hd with tickets := hd.tickets.release n, watchers := [] }
  exact (w.sameCount_modifyHandle i (g := g) fun _ => rfl).trans (sameCount_of_handles rfl rfl)

theorem sameCount_unlock (w : World) (m : Nat) : SameCount w (w.unlock m) := by
  unfold unlock
  split
  · refine SameCount.of_holds rfl (fun _ => rfl) fun p hp => ?_
    rw [List.countP_append, List.countP_singleton, hp _ fun h => Hold.noConfusion]
    simp
  · exact sameCount_of_handles rfl rfl

theorem sameCount_letGoUnit (w : World) (u : UnitRef) : SameCount w (w.letGoUnit u) := by
  cases u <;> exact sameCount_of_handles rfl rfl

/-- A new handle with nothing pending keeps the counts: its number named no handle before. -/
theorem sameCount_push (w : World) {hd : Handle} (h0 : hd.pending = 0) :
    SameCount w { w with handles := w.handles.push hd } := by
  refine ⟨by simp, fun h => ?_, fun _ => rfl, fun _ _ => rfl⟩
  simp only [World.handle, Array.getElem?_push]
  split
  · rename_i heq
    subst heq
    simp [h0]
    rfl
  · rfl

theorem handle_hold (w : World) (x : Hold) (i : Nat) : (w.hold x).handle i = w.handle i := rfl

theorem pendingHeld_hold_pending (w : World) (h j : Nat) :
    (w.hold (.pending h)).pendingHeld j = w.pendingHeld j + if h = j then 1 else 0 := by
  unfold pendingHeld
  rw [holds_hold, List.countP_append, List.countP_singleton]
  simp

/-- A number out of range names the default handle, with nothing pending. -/
theorem pending_of_size_le {w : World} {h : Nat} (hle : w.handles.size ≤ h) :
    (w.handle h).pending = 0 := by
  rw [World.handle, Array.getElem?_eq_none hle]
  rfl

/-- Counting a run of an existing handle as pending, and listing its hold, keeps the counts
true. -/
theorem Counted.beginPending {w : World} (hc : w.Counted) {h : Nat} (hi : h < w.handles.size) :
    ((w.modifyHandle h fun hd => { hd with pending := hd.pending + 1 }).hold (.pending h)).Counted := by
  intro j
  rw [handle_hold, handle_modifyHandle, pendingHeld_hold_pending]
  show _ = w.pendingHeld j + _
  by_cases hj : h = j
  · subst hj
    rw [if_pos ⟨rfl, hi⟩, if_pos rfl, hc h]
  · rw [if_neg fun hh => hj hh.1, if_neg hj, hc j]
    rfl

/-- Ending a pending run gives back one hold of it and lowers the count: the counts stay true. -/
theorem Counted.endPending {w : World} (hc : w.Counted) (h : Nat) :
    ((w.unhold (.pending h)).modifyHandle h fun hd => { hd with pending := hd.pending - 1 }).Counted := by
  intro j
  rw [handle_modifyHandle, handle_of_handles (handles_unhold w _)]
  show _ = (w.unhold (.pending h)).pendingHeld j
  by_cases hj : h = j
  · subst hj
    rw [pendingHeld_unhold_pending, ← hc h]
    split
    · rfl
    · -- a number out of range holds nothing pending
      rename_i hn
      have hle : w.handles.size ≤ h := by
        rw [handles_unhold] at hn
        omega
      rw [pending_of_size_le hle]
  · rw [if_neg fun hh => hj hh.1, hc j]
    exact (w.countP_unhold _ fun e he => by simp [he, hj]).symm

/-- Giving a resource back changes no entry of the holds that is a pending run. -/
theorem countP_give (w : World) (x : Hold) {p : Nat × Hold → Bool}
    (hp : ∀ e : Nat × Hold, (∀ h, e.2 ≠ .pending h) → p e = false) :
    (w.give x).holds.countP p = w.holds.countP p := by
  cases x with
  | pending h => rfl
  | ticket h n => rfl
  | lock m =>
    show (w.unlock m).holds.countP p = _
    unfold unlock
    split
    · rw [List.countP_append, List.countP_singleton, hp _ fun h => Hold.noConfusion]
      simp
    · rfl
  | unitRef u => cases u <;> rfl

theorem countP_foldl_give {p : Nat × Hold → Bool}
    (hp : ∀ e : Nat × Hold, (∀ h, e.2 ≠ .pending h) → p e = false) (xs : List (Nat × Hold)) :
    ∀ w : World, (xs.foldl (fun w e => w.give e.2) w).holds.countP p = w.holds.countP p := by
  induction xs with
  | nil => intro w; rfl
  | cons x rest ih =>
    intro w
    exact (ih (w.give x.2)).trans (w.countP_give x.2 hp)

theorem sameCount_give (w : World) {x : Hold} (hx : ∀ h, x ≠ .pending h) : SameCount w (w.give x) := by
  cases x with
  | pending h => exact absurd rfl (hx h)
  | ticket h n => exact w.sameCount_releaseTicket h n
  | lock m => exact w.sameCount_unlock m
  | unitRef u => exact w.sameCount_letGoUnit u

/-- Giving back the resources `xs` in order, from a world whose counts are true once the pending
runs among `xs` are added to the runs held: the counts end true. -/
theorem counted_foldl_give (xs : List (Nat × Hold)) :
    ∀ w : World, (∀ h, (w.handle h).pending = w.pendingHeld h + xs.countP (·.2 == .pending h)) →
      (xs.foldl (fun w e => w.give e.2) w).Counted := by
  induction xs with
  | nil =>
    intro w hw h
    simpa using hw h
  | cons x rest ih =>
    intro w hw
    -- each resource given back moves one pending run, if it is one, from `xs` to the count
    refine ih _ fun h => ?_
    have hx := hw h
    rw [List.countP_cons] at hx
    obtain ⟨o, x⟩ := x
    cases x with
    | pending i =>
      show ((w.modifyHandle i _).handle h).pending = w.pendingHeld h + _
      rw [handle_modifyHandle]
      by_cases hih : i = h
      · subst hih
        simp only [beq_self_eq_true, if_true] at hx
        have hlt : i < w.handles.size := by
          by_contra hn
          rw [pending_of_size_le (Nat.le_of_not_lt hn)] at hx
          omega
        rw [if_pos ⟨rfl, hlt⟩]
        dsimp only
        omega
      · rw [if_neg fun hh => hih hh.1]
        simpa [hih] using hx
    | ticket i n =>
      have hs := w.sameCount_give (x := .ticket i n) fun _ => Hold.noConfusion
      rw [hs.pending, hs.held]
      simpa using hx
    | lock m =>
      have hs := w.sameCount_give (x := .lock m) fun _ => Hold.noConfusion
      rw [hs.pending, hs.held]
      simpa using hx
    | unitRef u =>
      have hs := w.sameCount_give (x := .unitRef u) fun _ => Hold.noConfusion
      rw [hs.pending, hs.held]
      simpa using hx

/-- The runs of handle `h` held, split between owner `o` and the others. -/
theorem pendingHeld_split (w : World) (o h : Nat) :
    w.pendingHeld h = (w.holds.filter (·.1 != o)).countP (·.2 == .pending h) +
      (w.holds.filter (·.1 == o)).countP (·.2 == .pending h) := by
  unfold pendingHeld
  rw [List.countP_eq_countP_filter_add w.holds _ (·.1 != o)]
  simp only [bne, Bool.not_not]

theorem heldBy_eq_countP_filter (w : World) (o h : Nat) :
    w.heldBy o h = (w.holds.filter (·.1 == o)).countP (·.2 == .pending h) := by
  unfold heldBy
  rw [List.countP_filter]
  refine List.countP_congr fun e _ => ?_
  obtain ⟨o', x⟩ := e
  simp [and_comm]

/-- Dropping a fiber gives back what its owner held: the counts stay true. -/
theorem Counted.releaseOwner {w : World} (hc : w.Counted) (o : Nat) : (w.releaseOwner o).Counted := by
  unfold World.releaseOwner
  refine counted_foldl_give _ _ fun h => ?_
  show (w.handle h).pending = (w.holds.filter (·.1 != o)).countP (·.2 == .pending h) + _
  rw [List.countP_reverse, hc h, pendingHeld_split w o h]

/-- Dropping a fiber lowers each handle's count by the runs of it that the fiber's owner held. -/
theorem pending_releaseOwner {w : World} (hc : w.Counted) (o h : Nat) :
    ((w.releaseOwner o).handle h).pending = (w.handle h).pending - w.heldBy o h := by
  rw [hc.releaseOwner o h, hc h, pendingHeld_split w o h, ← heldBy_eq_countP_filter]
  unfold World.releaseOwner pendingHeld
  rw [countP_foldl_give (fun e he => beq_false_of_ne (he h))]
  dsimp only
  omega

/-- Dropping a fiber leaves its owner holding no run. -/
theorem heldBy_releaseOwner (w : World) (o h : Nat) : (w.releaseOwner o).heldBy o h = 0 := by
  unfold World.releaseOwner heldBy
  rw [countP_foldl_give (fun e he => beq_false_of_ne fun heq => he h (by rw [heq]))]
  refine List.countP_eq_zero.2 fun e he heq => ?_
  rw [List.mem_filter] at he
  simp only [beq_iff_eq] at heq
  subst heq
  simp at he

theorem size_releaseOwner (w : World) (o : Nat) : (w.releaseOwner o).handles.size = w.handles.size :=
  rel_releaseOwner (fun w w' => w'.handles.size = w.handles.size) (fun _ _ => rfl)
    (fun _ _ _ h₁ h₂ => h₂.trans h₁) size_give w o

/-- A step of code that keeps every count and its runs, removes no handle, and keeps the
running owner. -/
structure Neutral (s s' : World) : Prop extends SameCount s s' where
  owner : s'.owner = s.owner

theorem Neutral.refl (s : World) : Neutral s s := ⟨SameCount.refl s, rfl⟩

theorem Neutral.trans {a b c : World} (h₁ : Neutral a b) (h₂ : Neutral b c) : Neutral a c :=
  ⟨h₁.toSameCount.trans h₂.toSameCount, h₂.owner.trans h₁.owner⟩

theorem neutral_of_handles {s s' : World} (hh : s'.handles = s.handles) (hl : s'.holds = s.holds)
    (ho : s'.owner = s.owner) : Neutral s s' :=
  ⟨sameCount_of_handles hh hl, ho⟩

theorem neutral_modifyHandle (w : World) (i : Nat) {g : Handle → Handle}
    (hg : ∀ hd, (g hd).pending = hd.pending) : Neutral w (w.modifyHandle i g) :=
  ⟨w.sameCount_modifyHandle i hg, rfl⟩

theorem Neutral.hold {s s' : World} (hn : Neutral s s') {x : Hold} (hx : ∀ h, x ≠ .pending h) :
    Neutral s (s'.hold x) :=
  hn.trans ⟨s'.sameCount_hold hx, rfl⟩

theorem Neutral.unhold {s s' : World} (hn : Neutral s s') {x : Hold} (hx : ∀ h, x ≠ .pending h) :
    Neutral s (s'.unhold x) := by
  refine hn.trans ⟨s'.sameCount_unhold hx, ?_⟩
  rcases s'.unhold_cases x with ⟨he, -⟩ | ⟨e, hs, -, -, he⟩ <;> rw [he]

theorem Neutral.releaseTicket {s s' : World} (hn : Neutral s s') (i n : Nat) :
    Neutral s (s'.releaseTicket i n) :=
  hn.trans ⟨s'.sameCount_releaseTicket i n, rfl⟩

theorem neutral_push (w : World) {hd : Handle} (h0 : hd.pending = 0) :
    Neutral w { w with handles := w.handles.push hd } :=
  ⟨w.sameCount_push h0, rfl⟩

/-- Issuing a ticket changes only the handle's tickets and lists the ticket. -/
theorem neutral_issue (s : World) (h : Nat) (tk : Transaction.Sequencer) (n : Nat) :
    Neutral s ((s.modifyHandle h fun hd => { hd with tickets := tk }).hold (.ticket h n)) := by
  refine (s.neutral_modifyHandle h ?_).hold ?_
  · intro
    rfl
  · intro _ heq
    cases heq

theorem heldBy_hold_pending (w : World) (h : Nat) :
    (w.hold (.pending h)).heldBy w.owner h = w.heldBy w.owner h + 1 := by
  unfold heldBy
  rw [holds_hold, List.countP_append, List.countP_singleton]
  simp

/-- Owner `o` runs, handle `h` exists with count `c`, and `o` holds `k` runs of it. -/
structure RunsWith (h o c k : Nat) (s : World) : Prop where
  owner : s.owner = o
  pending : (s.handle h).pending = c
  held : s.heldBy o h = k
  lt : h < s.handles.size

namespace RunsWith

variable {h o c k : Nat} {s : World}

theorem neutral {s' : World} (hr : RunsWith h o c k s) (hn : Neutral s s') : RunsWith h o c k s' :=
  ⟨hn.owner.trans hr.owner, (hn.pending h).trans hr.pending, (hn.owned o h).trans hr.held,
    Nat.lt_of_lt_of_le hr.lt hn.size⟩

theorem wakes (hr : RunsWith h o c k s) : RunsWith h o c k { s with wakes := [] } :=
  ⟨hr.owner, hr.pending, hr.held, hr.lt⟩

/-- Counting a run raises the count and the runs of the running owner by one. -/
theorem beginPending (hr : RunsWith h o c k s) :
    RunsWith h o (c + 1) (k + 1)
      ((s.modifyHandle h fun hd => { hd with pending := hd.pending + 1 }).hold (.pending h)) := by
  refine ⟨hr.owner, ?_, ?_, by simpa [World.modifyHandle] using hr.lt⟩
  · rw [handle_hold, handle_modifyHandle_self s hr.lt, hr.pending]
  · rw [← hr.owner]
    exact (heldBy_hold_pending _ h).trans (congrArg (· + 1) (hr.owner ▸ hr.held))

/-- Ending a run lowers the count and the runs of the running owner by one. -/
theorem endPending (hr : RunsWith h o (c + 1) (k + 1) s) :
    (((s.unhold (.pending h)).modifyHandle h fun hd =>
        { hd with pending := hd.pending - 1 }).handle h).pending = c ∧
      ((s.unhold (.pending h)).modifyHandle h fun hd =>
        { hd with pending := hd.pending - 1 }).heldBy o h = k := by
  have hlt : h < (s.unhold (.pending h)).handles.size := by rw [handles_unhold]; exact hr.lt
  refine ⟨?_, ?_⟩
  · rw [handle_modifyHandle_self _ hlt, handle_of_handles (handles_unhold s _), hr.pending]
    rfl
  · show (s.unhold (.pending h)).heldBy o h = k
    have hpos : 0 < s.heldBy s.owner h := by rw [hr.owner, hr.held]; omega
    rw [← hr.owner, heldBy_unhold_pending s h hpos, hr.owner, hr.held]
    rfl

end RunsWith

theorem keepsCount_beginPending {w : World} {h : Nat} (hi : h < w.handles.size) :
    KeepsCount w ((w.modifyHandle h fun hd => { hd with pending := hd.pending + 1 }).hold (.pending h)) :=
  ⟨by simp [World.modifyHandle], fun hc => hc.beginPending hi⟩

theorem keepsCount_endPending (w : World) (h : Nat) :
    KeepsCount w ((w.unhold (.pending h)).modifyHandle h fun hd => { hd with pending := hd.pending - 1 }) :=
  ⟨by simp [World.modifyHandle], fun hc => hc.endPending h⟩

/-- Handle `h` exists. -/
def HasHandle (h : Nat) (s : World) : Prop := h < s.handles.size

theorem stable_hasHandle (h : Nat) : Stable KeepsCount (HasHandle h) :=
  fun _ _ hs hk => Nat.lt_of_lt_of_le hs hk.size

end World

/-- The rules of the pending counts: no step removes a handle, and every step, and whatever
happens while code waits, keeps the counts true of a world where they were; the scheduler's
bookkeeping touches neither the counts nor the runs held. -/
def countRules : Rules World Cond where
  rely := World.KeepsCount
  sched := World.SameCount
  guar := World.KeepsCount
  woken _ _ := True

theorem countRules_lawful : countRules.Lawful where
  rely_refl := World.KeepsCount.refl
  rely_trans _ _ _ := World.KeepsCount.trans
  sched_refl := World.SameCount.refl
  sched_trans _ _ _ := World.SameCount.trans
  guar_refl := World.KeepsCount.refl
  sched_rely _ _ h := h.keepsCount
  guar_rely _ _ h := h

/-- The scheduler's bookkeeping touches only watchers, owners and overrides, and giving back
what a dropped fiber's owner held keeps the counts true. -/
theorem World.host_keeps_countRules : World.host.Keeps countRules where
  listen c t s := by
    cases c with
    | turn h n => exact s.sameCount_modifyHandle h fun hd => by split <;> rfl
    | granted m o => exact World.sameCount_of_handles rfl rfl
  forget t s := by
    refine World.SameCount.of_holds (by simp [World.host]) (fun h => ?_) fun _ _ => rfl
    simp only [World.host, World.handle, Array.getElem?_map]
    cases s.handles[h]? <;> rfl
  release o s := ⟨Nat.le_of_eq (s.size_releaseOwner o).symm, fun hc => hc.releaseOwner o⟩
  takeWakes s := World.sameCount_of_handles rfl rfl
  fresh s := World.sameCount_of_handles rfl rfl
  enter t o n s := World.sameCount_of_handles rfl rfl
  spawned p c s := by
    apply World.sameCount_of_handles <;> simp only [World.host] <;> split <;> rfl
  holds _ _ _ := trivial

end TxnCoord
