import TxnCoord.Proofs.Fiber.Schedule
import TxnCoord.Proofs.Transaction.Tickets
import TxnCoord.Transaction.Handle
/-!
# Requests go out in ticket order

Every request of an HTTP handle takes a ticket, and goes out only in its ticket's turn.
`turnRules h T` are the rules of `Rules` for the turns of handle `h`:

* every step keeps the handle's link and moves its sequencer's books on
  (`Handle.TurnsAdvance`): the next number and the finished tickets never go back, so
  neither does the ticket served;
* a step that adds to the log, that is sends a request, is taken while a ticket that `T`
  allows is served;
* the scheduler's bookkeeping leaves the sequencer and the link alone, and giving back
  what a dropped fiber held finishes its tickets.

Each operation of a handle, started when `k` is the next ticket of the handle, takes
ticket `k` in its first step and keeps to `turnRules h (· = k)`: it sends only in the turn
of ticket `k`, and it has finished ticket `k` when it returns. An execute reserves its
ticket when it is called; commit, rollback and keep-alive take theirs when they first run.
The background keep-alive task, started when `k` is the next ticket, sends only in the
turns of ticket `k` and later ones.

Since the ticket served never goes back, a request in the turn of ticket `k` goes out
before every request in the turn of a later ticket. A ticket given up without a request is
finished when its fiber is dropped (`World.finished_releaseOwner`), and the lowest ticket
not finished is served (`World.host_turn_of_finished_below`), so it holds up no later
request.

    Triple (turnRules h (· = k)) (Starts h k) (execute h batch).run
      (fun _ s => (s.handle h).tickets.Finished k)            (requests_keep_ticket_order)
-/

namespace TxnCoord

open Transaction

namespace Handle

/-- The scheduler's bookkeeping leaves a handle's sequencer and link alone. -/
def SameTurns (hd hd' : Handle) : Prop := hd'.tickets = hd.tickets ∧ hd'.link = hd.link

/-- How a handle may move on under the rules of its turns: it keeps its link, and its
sequencer's books move on. -/
def TurnsAdvance (hd hd' : Handle) : Prop :=
  hd'.link = hd.link ∧ (hd.tickets.Valid → hd.tickets.Advances hd'.tickets)

theorem SameTurns.refl (hd : Handle) : hd.SameTurns hd := ⟨rfl, rfl⟩

theorem SameTurns.trans {a b c : Handle} (h₁ : a.SameTurns b) (h₂ : b.SameTurns c) :
    a.SameTurns c :=
  ⟨h₂.1.trans h₁.1, h₂.2.trans h₁.2⟩

theorem SameTurns.advance {a b : Handle} (h : a.SameTurns b) : a.TurnsAdvance b := by
  refine ⟨h.2, fun hv => ?_⟩
  rw [h.1]
  exact Sequencer.Advances.refl hv

theorem TurnsAdvance.refl (hd : Handle) : hd.TurnsAdvance hd := (SameTurns.refl hd).advance

theorem TurnsAdvance.trans {a b c : Handle} (h₁ : a.TurnsAdvance b) (h₂ : b.TurnsAdvance c) :
    a.TurnsAdvance c :=
  ⟨h₂.1.trans h₁.1, fun hv => (h₁.2 hv).trans (h₂.2 (h₁.2 hv).valid)⟩

end Handle

namespace World

/-- Handle `h`'s sequencer and link are as they were. -/
def SameTurns (h : Nat) (s s' : World) : Prop := (s.handle h).SameTurns (s'.handle h)

/-- Handle `h` keeps its link, and its sequencer's books move on. -/
def TurnsAdvance (h : Nat) (s s' : World) : Prop := (s.handle h).TurnsAdvance (s'.handle h)

theorem sameTurns_of_handles {s s' : World} (he : s'.handles = s.handles) (h : Nat) :
    SameTurns h s s' := by
  simp only [SameTurns, World.handle, he]
  exact Handle.SameTurns.refl _

theorem sameTurns_modifyHandle (w : World) (h i : Nat) {f : Handle → Handle}
    (hf : (w.handle i).SameTurns (f (w.handle i))) : SameTurns h w (w.modifyHandle i f) :=
  handle_rel_modifyHandle Handle.SameTurns Handle.SameTurns.refl w i f hf h

theorem turnsAdvance_give (w : World) (h : Nat) (x : Hold) : TurnsAdvance h w (w.give x) := by
  refine ⟨?_, fun hv => w.advances_give h hv x⟩
  cases x with
  | pending i => exact handle_rel_modifyHandle (fun a b => b.link = a.link) (fun _ => rfl) w i _ rfl h
  | ticket i n => exact handle_rel_modifyHandle (fun a b => b.link = a.link) (fun _ => rfl) w i _ rfl h
  | lock m =>
    show ((w.unlock m).handles[h]?.getD default).link = _
    rw [handles_unlock]
    rfl
  | unitRef u =>
    show ((w.letGoUnit u).handles[h]?.getD default).link = _
    rw [handles_letGoUnit]
    rfl

end World

/-- The rules of the turns of handle `h`: every step keeps the handle's link and moves its
books on, a step that adds to the log is taken while a ticket that `T` allows is served,
the bookkeeping leaves the books alone, and a wait on a condition ends when it holds. -/
def turnRules (h : Nat) (T : Nat → Prop) : Rules World Cond where
  rely := World.TurnsAdvance h
  sched := World.SameTurns h
  guar s s' := World.TurnsAdvance h s s' ∧ (s'.log ≠ s.log → T (s.handle h).tickets.serving)
  woken c s := World.host.holds c s = true

theorem turnRules_lawful (h : Nat) (T : Nat → Prop) : (turnRules h T).Lawful where
  rely_refl _ := Handle.TurnsAdvance.refl _
  rely_trans _ _ _ := Handle.TurnsAdvance.trans
  sched_refl _ := Handle.SameTurns.refl _
  sched_trans _ _ _ := Handle.SameTurns.trans
  guar_refl _ := ⟨Handle.TurnsAdvance.refl _, fun hne => absurd rfl hne⟩
  sched_rely _ _ := Handle.SameTurns.advance
  guar_rely _ _ hg := hg.1

/-- The scheduler's bookkeeping touches only the watchers of a handle, and giving back what
an owner held moves every sequencer on. -/
theorem World.host_keeps_turnRules (h : Nat) (T : Nat → Prop) : World.host.Keeps (turnRules h T) where
  listen c t s := by
    cases c with
    | turn i n => exact s.sameTurns_modifyHandle h i (by split <;> exact Handle.SameTurns.refl _)
    | granted m o => exact World.sameTurns_of_handles rfl h
  forget t s := by
    show World.SameTurns h s _
    simp only [World.SameTurns, Handle.SameTurns, World.host, World.handle, Array.getElem?_map]
    cases s.handles[h]? <;> exact ⟨rfl, rfl⟩
  release o s := World.rel_releaseOwner (World.TurnsAdvance h)
    (fun w _ => Handle.TurnsAdvance.refl (w.handle h)) (fun _ _ _ => Handle.TurnsAdvance.trans)
    (fun w x => w.turnsAdvance_give h x) s o
  takeWakes s := World.sameTurns_of_handles rfl h
  fresh s := World.sameTurns_of_handles rfl h
  enter t o n s := World.sameTurns_of_handles rfl h
  spawned p c s := by
    apply World.sameTurns_of_handles _ h
    simp only [World.host]
    split <;> rfl
  holds _ _ hc := hc

/-- Handle `h` is on the HTTP endpoint, and its sequencer's books are in order. -/
structure Books (h : Nat) (s : World) : Prop where
  http : ∃ v c ver, (s.handle h).link = .http v c ver
  valid : (s.handle h).tickets.Valid

/-- An HTTP handle whose next ticket is `k`: an operation started here takes ticket `k`. -/
def Starts (h k : Nat) (s : World) : Prop := Books h s ∧ (s.handle h).tickets.next = k

/-- Ticket `k` of an HTTP handle has been issued. -/
def Issued (h k : Nat) (s : World) : Prop := Books h s ∧ k < (s.handle h).tickets.next

/-- The turn of ticket `k` of an HTTP handle. -/
def InTurn (h k : Nat) (s : World) : Prop := Issued h k s ∧ (s.handle h).tickets.serving = k

/-- Ticket `k` of an HTTP handle was issued and has finished. -/
def Done (h k : Nat) (s : World) : Prop := Issued h k s ∧ (s.handle h).tickets.Finished k

/-- The books of handle `h` are in order, and no ticket below `k` is still to be issued. -/
def IssuedFrom (h k : Nat) (s : World) : Prop :=
  (s.handle h).tickets.Valid ∧ k ≤ (s.handle h).tickets.next

section Knowledge

variable {h k : Nat}

theorem Books.of_same {s s' : World} (hb : Books h s) (hs : World.SameTurns h s s') : Books h s' :=
  ⟨hs.2 ▸ hb.http, hs.1 ▸ hb.valid⟩

theorem Books.of_advance {s s' : World} (hb : Books h s) (hs : World.TurnsAdvance h s s') :
    Books h s' :=
  ⟨hs.1 ▸ hb.http, (hs.2 hb.valid).valid⟩

/-- An HTTP handle is one that exists. -/
theorem Books.lt_size {s : World} (hb : Books h s) : h < s.handles.size := by
  obtain ⟨v, c, ver, hl⟩ := hb.http
  refine Nat.lt_of_not_le fun hge => ?_
  rw [World.handle, Array.getElem?_eq_none hge, Option.getD_none] at hl
  cases hl

/-- A handle found on the HTTP endpoint is not a session handle. -/
theorem Books.not_session {w : World} (hw : Books h w) {v : Nat} (hl : (w.handle h).link = .session v) :
    False := by
  obtain ⟨_, _, _, hh⟩ := hw.http
  rw [hh] at hl
  cases hl

theorem stable_starts : Stable (World.SameTurns h) (Starts h k) :=
  fun _ _ ⟨hb, hn⟩ hs => ⟨hb.of_same hs, hs.1 ▸ hn⟩

theorem stable_issued : Stable (World.TurnsAdvance h) (Issued h k) :=
  fun _ _ ⟨hb, hk⟩ hs => ⟨hb.of_advance hs, Nat.lt_of_lt_of_le hk (hs.2 hb.valid).next_le⟩

theorem stable_issued_sched : Stable (World.SameTurns h) (Issued h k) :=
  fun _ _ hp hs => stable_issued _ _ hp hs.advance

theorem stable_inTurn : Stable (World.SameTurns h) (InTurn h k) :=
  fun _ _ ⟨hi, hn⟩ hs => ⟨stable_issued_sched _ _ hi hs, hs.1 ▸ hn⟩

theorem stable_done : Stable (World.SameTurns h) (Done h k) :=
  fun _ s' ⟨hi, hf⟩ hs => ⟨stable_issued_sched _ _ hi hs,
    show (s'.handle h).tickets.Finished k by rw [hs.1]; exact hf⟩

theorem stable_issuedFrom : Stable (World.TurnsAdvance h) (IssuedFrom h k) :=
  fun _ _ ⟨hv, hk⟩ hs => ⟨(hs.2 hv).valid, Nat.le_trans hk (hs.2 hv).next_le⟩

theorem stable_issuedFrom_sched : Stable (World.SameTurns h) (IssuedFrom h k) :=
  fun _ _ hp hs => stable_issuedFrom _ _ hp hs.advance

end Knowledge

namespace Transaction

section Steps

variable {h : Nat} {T : Nat → Prop} {P : World → Prop} {α : Type}

/-- A step that leaves handle `h`'s sequencer and link and the log alone keeps to the
rules of its turns, and keeps what they tell. -/
theorem quiet_change {f : World → World} (hf : ∀ s, World.SameTurns h s (f s) ∧ (f s).log = s.log)
    (hP : Stable (World.SameTurns h) P) :
    Triple (turnRules h T) P (Step.change f) (fun _ => P) := by
  refine (Triple.modify fun s _ => ?_).post fun _ _ ⟨s, hs, hr⟩ => hP _ _ (hP _ _ hs (hf s).1) hr
  exact ⟨(hf s).1.advance, fun hne => absurd (hf s).2 hne⟩

/-- A change of one handle that leaves its sequencer and link alone. -/
theorem quiet_modifyHandle (s : World) (i : Nat) {f : Handle → Handle}
    (hf : ∀ hd, (f hd).tickets = hd.tickets ∧ (f hd).link = hd.link) :
    World.SameTurns h s (s.modifyHandle i f) ∧ (s.modifyHandle i f).log = s.log :=
  ⟨s.sameTurns_modifyHandle h i (hf _), rfl⟩

theorem read_turns (hP : Stable (World.SameTurns h) P) :
    Triple (turnRules h T) P Step.read (fun _ => P) :=
  (Triple.get (turnRules_lawful h T)).post fun _ _ ⟨hp, hs⟩ => hP _ _ hp hs

theorem beginPending_turns (hP : Stable (World.SameTurns h) P) (i : Nat) :
    Triple (turnRules h T) P (Step.beginPending i) (fun _ => P) := by
  refine quiet_change (fun s => ?_) hP
  exact quiet_modifyHandle s i fun _ => ⟨rfl, rfl⟩

theorem endPending_turns (hP : Stable (World.SameTurns h) P) (i : Nat) :
    Triple (turnRules h T) P (Step.endPending i) (fun _ => P) :=
  quiet_change (fun s => ⟨(World.sameTurns_of_handles (s.handles_unhold _) h).trans
    ((s.unhold _).sameTurns_modifyHandle h i ⟨rfl, rfl⟩), s.log_unhold _⟩) hP

theorem setState_turns (hP : Stable (World.SameTurns h) P) (i : Nat) (st : TxState) :
    Triple (turnRules h T) P (setState i st) (fun _ => P) := by
  refine quiet_change (fun s => ?_) hP
  exact quiet_modifyHandle s i fun _ => ⟨rfl, rfl⟩

theorem vanished_turns (hP : Stable (World.SameTurns h) P) (i : Nat) :
    Triple (turnRules h T) P (vanished i) (fun _ => P) :=
  Triple.bind (setState_turns hP i _) fun _ => Triple.pure _

theorem recordFailure_turns (hP : Stable (World.SameTurns h) P) (i : Nat) (f : Http.Failure) :
    Triple (turnRules h T) P (recordFailure i f) (fun _ => P) := by
  unfold recordFailure
  dsimp only
  split
  · refine Triple.bind (quiet_change (fun s => quiet_modifyHandle s i fun hd => ?_) hP) fun _ =>
      Triple.pure _
    split <;> split <;> exact ⟨rfl, rfl⟩
  · exact Triple.pure _

theorem absorb_turns (hP : Stable (World.SameTurns h) P) (i : Nat) (a : Http.Accepted) :
    Triple (turnRules h T) P (absorb i a).run (fun _ => P) := by
  unfold absorb
  refine Triple.run_liftM_bind (read_turns hP) fun w => ?_
  extract_lets hd expiry
  -- the expiry comes last, whether the address was new or not
  have hexpiry : ∀ u : Unit, Triple (turnRules h T) P (expiry u).run (fun _ => P) := by
    intro u
    dsimp only [expiry]
    split
    · refine Triple.run_liftM (quiet_change (fun s => ?_) hP)
      exact quiet_modifyHandle s i fun _ => ⟨rfl, rfl⟩
    · exact Triple.run_pure fun _ hs => hs
  split
  · split
    · refine Triple.run_liftM_bind (quiet_change (fun s => ?_) hP) hexpiry
      exact quiet_modifyHandle s i fun _ => ⟨rfl, rfl⟩
    · exact Triple.run_throw_bind fun _ hs => hs
  · exact hexpiry ()

/-- Sending a request is the one step that adds to the log: it is taken in the turn of
ticket `k`, which the rules must allow. -/
theorem send_turns (hT : T k) (i : Nat) (m : Http.Method) (uri : String) (body : Option Json) :
    Triple (turnRules h T) (InTurn h k) (send i m uri body) (fun _ => InTurn h k) := by
  refine (Triple.modifyGet fun s hs => ?_).post fun _ _ ⟨s, hs, _, hr⟩ => stable_inTurn _ _ ?_ hr
  · exact ⟨(World.sameTurns_of_handles rfl h).advance, fun _ => hs.2 ▸ hT⟩
  · exact stable_inTurn _ _ hs (World.sameTurns_of_handles rfl h)

/-- Only an older server's statement failure gives an unbegun handle its address. -/
theorem post_turns (hT : T k) (i : Nat) (uri : String) (batch : Batch) :
    Triple (turnRules h T) (InTurn h k) (post i uri batch) (fun _ => InTurn h k) := by
  unfold post
  refine Triple.bind (send_turns hT i _ _ _) fun r => ?_
  split
  · exact Triple.pure _
  · dsimp only
    split
    · refine Triple.bind (quiet_change (fun s => quiet_modifyHandle s i fun hd => ?_) stable_inTurn)
        fun _ => Triple.pure _
      split <;> exact ⟨rfl, rfl⟩
    · exact Triple.pure _

/-- Issuing a ticket hands out the next number. -/
theorem issue_turns (k : Nat) :
    Triple (turnRules h T) (Starts h k) (Step.issue h) (fun n s => n = k ∧ Issued h k s) := by
  have hadv : ∀ s : World, World.TurnsAdvance h s
      (s.modifyHandle h fun hd => { hd with tickets := (s.handle h).tickets.issue.2 }) :=
    fun s => World.handle_rel_modifyHandle Handle.TurnsAdvance Handle.TurnsAdvance.refl s h _
      ⟨rfl, Sequencer.advances_issue⟩ h
  refine (Triple.modifyGet fun s _ => ?_).post fun n s' ⟨s, hs, hn, hr⟩ => ?_
  · exact ⟨hadv s, fun hne => absurd rfl hne⟩
  · have hnext : ((s.modifyHandle h fun hd => { hd with tickets := (s.handle h).tickets.issue.2 }).handle
        h).tickets.next = k + 1 := by
      rw [World.handle_modifyHandle, if_pos ⟨rfl, hs.1.lt_size⟩, ← hs.2]
      rfl
    refine ⟨?_, stable_issued_sched _ _ ⟨hs.1.of_advance (hadv s), hnext ▸ Nat.lt_succ_self k⟩ hr⟩
    rw [← hn]
    exact hs.2

/-- A wait for the turn of ticket `k` ends in its turn. -/
theorem waitTurn_turns (k : Nat) :
    Triple (turnRules h T) (Issued h k) (Step.waitTurn h k) (fun _ => InTurn h k) :=
  (Triple.await _).post fun _ _ ⟨hi, hw⟩ =>
    ⟨After.of_stable stable_issued hi, (Sequencer.isTurn_iff _ k).1 hw⟩

/-- Finishing ticket `k` moves the books on and leaves it finished. -/
theorem finishTicket_turns (k : Nat) :
    Triple (turnRules h T) (Issued h k) (Step.finishTicket h k) (fun _ => Done h k) := by
  have hadv : ∀ s : World, World.TurnsAdvance h s ((s.unhold (.ticket h k)).releaseTicket h k) :=
    fun s => (World.sameTurns_of_handles (s.handles_unhold _) h).advance.trans
      ((s.unhold _).turnsAdvance_give h (.ticket h k))
  refine (Triple.modify fun s _ => ?_).post fun _ s' ⟨s, hs, hr⟩ =>
    stable_done _ _ ⟨stable_issued _ _ hs (hadv s), ?_⟩ hr
  · exact ⟨hadv s, fun hne => absurd (s.log_unhold _) hne⟩
  · show (((s.unhold _).releaseTicket h k).handle h).tickets.Finished k
    have hsize : h < (s.unhold (.ticket h k)).handles.size := (s.handles_unhold _).symm ▸ hs.1.lt_size
    rw [World.tickets_releaseTicket, if_pos ⟨rfl, hsize⟩]
    have hv : ((s.unhold (.ticket h k)).handle h).tickets.Valid := by
      simp only [World.handle, World.handles_unhold]
      exact hs.1.valid
    exact (Sequencer.release_finished_iff hv k k).2 (.inr rfl)

end Steps

section Operations

variable {h : Nat} {T : Nat → Prop}

theorem httpExecute_turns {n : Nat} (hT : T n) (batch : Batch) :
    Triple (turnRules h T) (Issued h n) (httpExecute h n batch).run
      (fun _ => Done h n) := by
  unfold httpExecute
  refine Triple.run_liftM_bind (waitTurn_turns n) fun _ => ?_
  refine Triple.run_andThen (fun _ => InTurn h n) ?_ fun _ =>
    Triple.bind (endPending_turns stable_inTurn h) fun _ => (finishTicket_turns n).pre fun _ hs => hs.1
  refine Triple.run_liftM_bind (read_turns stable_inTurn) fun w => ?_
  dsimp only
  refine Triple.run_ofExcept_bind (fun _ _ => ?_) fun _ _ _ hs => hs
  refine Triple.run_liftM_bind (post_turns hT h _ batch) fun r => ?_
  split
  · exact Triple.run_bind (fun _ => InTurn h n) (absorb_turns stable_inTurn h _)
      (fun _ => Triple.run_pure fun _ hs => hs) fun _ _ hs => hs
  · split
    · exact Triple.run_liftM_bind (vanished_turns stable_inTurn h) fun _ =>
        Triple.run_throw fun _ hs => hs
    · exact Triple.run_throw fun _ hs => hs
  · exact Triple.run_liftM_bind (recordFailure_turns stable_inTurn h _) fun _ =>
      Triple.run_throw fun _ hs => hs

theorem httpKeepAlive_turns {k : Nat} (hT : T k) :
    Triple (turnRules h T) (Starts h k) (httpKeepAlive h).run (fun _ => Done h k) := by
  unfold httpKeepAlive
  refine Triple.run_liftM_bind (issue_turns k) fun n => Triple.of_fact fun hn => ?_
  subst hn
  refine Triple.run_liftM_bind (waitTurn_turns _) fun _ => ?_
  refine Triple.run_andThen (fun _ => InTurn h n) ?_ fun _ =>
    (finishTicket_turns _).pre fun _ hs => hs.1
  refine Triple.run_liftM_bind (read_turns stable_inTurn) fun w => ?_
  dsimp only
  refine Triple.run_ofExcept_bind (fun _ _ => ?_) fun _ _ _ hs => hs
  split
  · exact Triple.run_pure fun _ hs => hs
  · refine Triple.run_liftM_bind (post_turns hT h _ _) fun r => ?_
    split
    · exact absorb_turns stable_inTurn h _
    · exact Triple.run_liftM_bind (vanished_turns stable_inTurn h) fun _ =>
        Triple.run_throw fun _ hs => hs
    · exact Triple.run_liftM_bind (recordFailure_turns stable_inTurn h _) fun _ =>
        Triple.run_throw fun _ hs => hs

/-- A commit refused while statement runs are pending takes no ticket. -/
theorem httpCommit_turns {k : Nat} (hT : T k) (batch : Batch) :
    Triple (turnRules h T) (Starts h k) (httpCommit h batch).run
      (fun _ s => Done h k s ∨ Starts h k s) := by
  unfold httpCommit
  extract_lets committing afterPending
  -- the request once its address is settled, in the turn of ticket `k`
  have request : ∀ uri, Triple (turnRules h T) (InTurn h k) (committing uri).run
      (fun _ => InTurn h k) := by
    intro uri
    refine Triple.run_liftM_bind (post_turns hT h _ batch) fun r => ?_
    split
    · exact Triple.run_liftM_bind (setState_turns stable_inTurn h _) fun _ =>
        Triple.run_pure fun _ hs => hs
    · exact Triple.run_liftM_bind (vanished_turns stable_inTurn h) fun _ =>
        Triple.run_throw fun _ hs => hs
    · exact Triple.run_throw fun _ hs => hs
    · exact Triple.run_liftM_bind (setState_turns stable_inTurn h _) fun _ =>
        Triple.run_throw fun _ hs => hs
  refine Triple.run_liftM_bind (read_turns stable_starts) fun w₀ => ?_
  dsimp only
  split
  · exact Triple.run_throw_bind fun _ hs => .inr hs
  refine Triple.run_liftM_bind (issue_turns k) fun n => Triple.of_fact fun hn => ?_
  subst hn
  refine Triple.run_liftM_bind (waitTurn_turns _) fun _ => ?_
  refine Triple.run_andThen (fun _ => InTurn h n) ?_ fun _ =>
    ((finishTicket_turns _).pre fun _ hs => hs.1).post fun _ _ hf => .inl hf
  refine Triple.run_liftM_bind (read_turns stable_inTurn) fun w => ?_
  dsimp only
  split
  · exact Triple.run_throw_bind fun _ hs => hs
  refine Triple.run_ofExcept_bind (fun _ _ => ?_) fun _ _ _ hs => hs
  split
  · exact Triple.run_pure_bind (request _)
  · split
    · exact Triple.run_liftM_bind (setState_turns stable_inTurn h _) fun _ =>
        Triple.run_pure fun _ hs => hs
    · exact Triple.run_pure_bind (request _)

theorem httpRollback_turns {k : Nat} (hT : T k) :
    Triple (turnRules h T) (Starts h k) (httpRollback h).run (fun _ => Done h k) := by
  unfold httpRollback
  refine Triple.run_liftM_bind (issue_turns k) fun n => Triple.of_fact fun hn => ?_
  subst hn
  refine Triple.run_liftM_bind (waitTurn_turns _) fun _ => ?_
  refine Triple.run_andThen (fun _ => InTurn h n) ?_ fun _ =>
    (finishTicket_turns _).pre fun _ hs => hs.1
  refine Triple.run_liftM_bind (read_turns stable_inTurn) fun w => ?_
  dsimp only
  split
  · exact Triple.run_pure fun _ hs => hs
  refine Triple.run_ofExcept_bind (fun _ _ => ?_) fun _ _ _ hs => hs
  split
  · exact Triple.run_liftM (setState_turns stable_inTurn h _)
  · refine Triple.run_liftM_bind (send_turns hT h _ _ _) fun r => ?_
    refine Triple.run_liftM_bind (setState_turns stable_inTurn h _) fun _ => ?_
    split
    · exact Triple.run_pure fun _ hs => hs
    · exact Triple.run_pure fun _ hs => hs
    · exact Triple.run_throw fun _ hs => hs

/-- A statement run takes its ticket when it is called. -/
theorem reserve_turns (k : Nat) :
    Triple (turnRules h T) (Starts h k) (reserve h) (fun n s => n = k ∧ Issued h k s) :=
  Triple.bind (beginPending_turns stable_starts h) fun _ => issue_turns k

theorem executeReserved_turns {n : Nat} (hT : T n) (batch : Batch) :
    Triple (turnRules h T) (Issued h n) (executeReserved h n batch).run (fun _ => Done h n) := by
  unfold executeReserved
  refine Triple.run_get_bind (turnRules_lawful h T) fun w hw => ?_
  split
  · exact (httpExecute_turns hT batch).pre fun _ hs => stable_issued_sched _ _ hs.1 hs.2
  · exact (hw.1.not_session ‹_›).elim

theorem execute_turns {k : Nat} (hT : T k) (batch : Batch) :
    Triple (turnRules h T) (Starts h k) (execute h batch).run (fun _ => Done h k) :=
  Triple.run_liftM_bind (reserve_turns k) fun _ => Triple.of_fact fun hn => by
    subst hn
    exact executeReserved_turns hT batch

theorem commitWith_turns {k : Nat} (hT : T k) (batch : Batch) :
    Triple (turnRules h T) (Starts h k) (commitWith h batch).run
      (fun _ s => Done h k s ∨ Starts h k s) := by
  unfold commitWith
  refine Triple.run_get_bind (turnRules_lawful h T) fun w hw => ?_
  split
  · exact (httpCommit_turns hT batch).pre fun _ hs => stable_starts _ _ hs.1 hs.2
  · exact (hw.1.not_session ‹_›).elim

theorem commit_turns {k : Nat} (hT : T k) :
    Triple (turnRules h T) (Starts h k) (commit h).run (fun _ s => Done h k s ∨ Starts h k s) :=
  Triple.run_bind _ (commitWith_turns hT {}) (fun _ => Triple.run_pure fun _ hs => hs)
    fun _ _ hs => hs

theorem rollback_turns {k : Nat} (hT : T k) :
    Triple (turnRules h T) (Starts h k) (rollback h).run (fun _ => Done h k) := by
  unfold rollback
  refine Triple.run_get_bind (turnRules_lawful h T) fun w hw => ?_
  split
  · exact (httpRollback_turns hT).pre fun _ hs => stable_starts _ _ hs.1 hs.2
  · exact (hw.1.not_session ‹_›).elim

theorem keepAlive_turns {k : Nat} (hT : T k) :
    Triple (turnRules h T) (Starts h k) (keepAlive h).run (fun _ => Done h k) := by
  unfold keepAlive
  refine Triple.run_get_bind (turnRules_lawful h T) fun w hw => ?_
  dsimp only
  split
  · exact (httpKeepAlive_turns hT).pre fun _ hs => stable_starts _ _ hs.1 hs.2
  · exact (hw.1.not_session ‹_›).elim

/-- The keep-alive of the background task, on a handle of either kind: an HTTP handle takes
the ticket that is next, one issued no earlier than ticket `k`. -/
theorem keepAlive_issuedFrom (k : Nat) :
    Triple (turnRules h (k ≤ ·)) (IssuedFrom h k) (keepAlive h).run (fun _ => IssuedFrom h k) := by
  unfold keepAlive
  refine Triple.run_get_bind (turnRules_lawful h _) fun w hw => ?_
  dsimp only
  split
  · rename_i v c ver heq
    refine ((httpKeepAlive_turns hw.2).pre fun s hs => ?_).post fun _ _ hd =>
      ⟨hd.1.1.valid, Nat.le_of_lt (Nat.lt_of_le_of_lt hw.2 hd.1.2)⟩
    have ht : (s.handle h).tickets = (w.handle h).tickets := hs.2.1
    exact ⟨⟨⟨v, c, ver, hs.2.2.trans heq⟩, ht ▸ hw.1⟩, congrArg Sequencer.next ht⟩
  · exact Triple.run_ofExcept fun _ hs => stable_issuedFrom _ _ hs.1 hs.2.advance

theorem keepAliveFrom_issuedFrom (k start period : Nat) :
    ∀ fuel j, Triple (turnRules h (k ≤ ·)) (IssuedFrom h k) (keepAliveFrom h start period fuel j)
      (fun _ _ => True) := by
  intro fuel
  -- each tick keeps alive with a ticket issued no earlier than `k`, then loops
  induction fuel with
  | zero => intro j; exact Triple.pure_of fun _ _ => trivial
  | succ fuel ih =>
    intro j
    unfold keepAliveFrom
    refine Triple.bind ((Triple.await _).post fun _ _ hs => After.of_stable stable_issuedFrom hs.1)
      fun _ => ?_
    refine Triple.bind (read_turns stable_issuedFrom_sched) fun w => ?_
    dsimp only
    split
    · exact Triple.pure_of fun _ _ => trivial
    split
    · exact ih _
    refine Triple.bind (keepAlive_issuedFrom k) fun r => ?_
    split
    · split
      · exact Triple.pure_of fun _ _ => trivial
      · exact ih _
    · exact ih _

/-- The background keep-alive task, started when `k` is the next ticket, sends only in the
turns of ticket `k` and later ones. -/
theorem keepAliveTask_issuedFrom (k period : Nat) :
    Triple (turnRules h (k ≤ ·)) (IssuedFrom h k) (keepAliveTask h period) (fun _ _ => True) := by
  unfold keepAliveTask
  refine Triple.bind (read_turns stable_issuedFrom_sched) fun w => ?_
  refine Triple.bind ((Triple.await _).post fun _ _ hs => After.of_stable stable_issuedFrom hs.1)
    fun _ => ?_
  exact keepAliveFrom_issuedFrom k _ period _ _

end Operations

end Transaction

/-- The requests of an HTTP handle go out one turn at a time, in the order of their
tickets. Each operation, started when `k` is the handle's next ticket, takes ticket `k`
(an execute when it is called, the others when they first run) and sends only while ticket
`k` is served, whatever the server answers and whatever other tasks do meanwhile, as long as
they move the handle's books on; when it returns, ticket `k` has finished. The background
keep-alive task sends only in the turns of tickets from `k` on. A ticket given up with a
dropped fiber is finished, and a ticket whose predecessors have all finished is served, so
a request that never went out holds up no later one. Every run of tasks that keep to these
rules keeps the books in order, and the ticket served never goes back. -/
theorem requests_keep_ticket_order (h : Nat) :
    (∀ k batch, Triple (turnRules h (· = k)) (Starts h k) (Transaction.execute h batch).run
      fun _ => Done h k) ∧
    (∀ k batch, Triple (turnRules h (· = k)) (Starts h k) (Transaction.commitWith h batch).run
      fun _ s => Done h k s ∨ Starts h k s) ∧
    (∀ k, Triple (turnRules h (· = k)) (Starts h k) (Transaction.commit h).run
      fun _ s => Done h k s ∨ Starts h k s) ∧
    (∀ k, Triple (turnRules h (· = k)) (Starts h k) (Transaction.rollback h).run
      fun _ => Done h k) ∧
    (∀ k, Triple (turnRules h (· = k)) (Starts h k) (Transaction.keepAlive h).run
      fun _ => Done h k) ∧
    (∀ k period, Triple (turnRules h (k ≤ ·)) (IssuedFrom h k)
      (Transaction.keepAliveTask h period) fun _ _ => True) ∧
    (∀ (w : World) o n, (w.handle h).tickets.Valid → h < w.handles.size →
      (o, Hold.ticket h n) ∈ w.holds → ((w.releaseOwner o).handle h).tickets.Finished n) ∧
    (∀ (w : World) k, (w.handle h).tickets.Valid →
      (∀ m, m < k → (w.handle h).tickets.Finished m) → ¬ (w.handle h).tickets.Finished k →
      World.host.holds (.turn h k) w = true) ∧
    (∀ (T : Nat → Prop) fuel (a : Agenda World Cond), Agenda.Sound (turnRules h T) a →
      (a.state.handle h).tickets.Valid →
      Agenda.Sound (turnRules h T) (Agenda.loop World.host fuel a) ∧
        (a.state.handle h).tickets.Advances
          ((Agenda.loop World.host fuel a).state.handle h).tickets ∧
        (a.state.handle h).tickets.serving ≤
          ((Agenda.loop World.host fuel a).state.handle h).tickets.serving) := by
  refine ⟨fun k batch => @Transaction.execute_turns h (· = k) k rfl batch,
    fun k batch => @Transaction.commitWith_turns h (· = k) k rfl batch,
    fun k => @Transaction.commit_turns h (· = k) k rfl,
    fun k => @Transaction.rollback_turns h (· = k) k rfl,
    fun k => @Transaction.keepAlive_turns h (· = k) k rfl,
    fun k period => Transaction.keepAliveTask_issuedFrom k period,
    fun w o n hv hh hn => w.finished_releaseOwner hv hh hn,
    fun w k hv hk hnk => w.host_turn_of_finished_below hv hk hnk, ?_⟩
  intro T fuel a ha hv
  obtain ⟨hsound, hrely⟩ :=
    Agenda.loop_sound (turnRules_lawful h T) (World.host_keeps_turnRules h T) fuel a ha
  exact ⟨hsound, hrely.2 hv, (hrely.2 hv).serving_le⟩

/-- Owner 1 holds ticket 0 of an HTTP handle: dropping it finishes ticket 0. With ticket 0
finished and ticket 1 not, ticket 1 has its turn. -/
theorem dropped_ticket_finishes :
    (((({ handles := #[{ id := default, database := "", link := .http 0 default default,
                          tickets := { next := 2 } }],
           holds := [(1, .ticket 0 0)] } : World).releaseOwner 1).handle 0).tickets.Finished 0) ∧
      World.host.holds (.turn 0 1)
        ({ handles := #[{ id := default, database := "", link := .http 0 default default,
                          tickets := { next := 2, serving := 1 } }] } : World) = true :=
  ⟨(requests_keep_ticket_order 0).2.2.2.2.2.2.1 _ 1 0 (by decide) (by decide)
      (List.mem_singleton.2 rfl),
    (requests_keep_ticket_order 0).2.2.2.2.2.2.2.1 _ 1 (by decide) (by decide) (by decide)⟩

end TxnCoord
