import TxnCoord.Proofs.Transaction.Addresses

/-!
# The keep-alive loop

An HTTP handle made with a keep-alive interval runs a task that, tick after tick, keeps the
transaction alive on the server. Its tick `k` comes at `start + k * period`. Each tick is one
`keepAliveRound`:

* on a handle that has ended, the loop ends;
* on an open handle with no address yet, nothing is sent and the loop goes on;
* otherwise one keep-alive runs. It takes a ticket and waits for its turn. From its turn it
  runs alone, and sends the empty post to the address if the handle is still open then, or is
  refused as closed if it is not (`KeptAlive`). After a refusal as closed the loop ends.

Among any other tasks that let the handle's life move on as it may, every step of the task
sends nothing, or that one post while the handle is open (`World.KeepAliveStep`). Once the
handle has ended it sends nothing at all, and at its next tick the loop ends. A handle here is
never dropped, so only its end stops the loop.

    keepAliveFrom h start period (fuel + 1) k
      = sleep until start + k * period; round; go on if the round says so   (keepAliveFrom_succ)
    KeepAliveLaw h P L → Triple (guardRules h True L) (IsHttp ∧ P) (keepAliveTask h period) …
-/

namespace TxnCoord

namespace Transaction

/-! ## Ticks -/

/-- One tick of the keep-alive loop once its time has come: on an open handle that has begun,
one keep-alive. Says whether the loop goes on: not once the handle has ended, nor after a
keep-alive that finds the transaction closed. -/
def keepAliveRound (h : Nat) : Step Bool := do
  let hd := (← Step.read).handle h
  if !hd.isOpen then pure false
  else if !hd.isBegun then pure true
  else
    match ← (keepAlive h).run with
    | .error e => pure !e.isClosed
    | .ok () => pure true

/-- The keep-alive loop, tick by tick: it sleeps until the tick, runs one round, and goes on
to the next tick as the round says. -/
theorem keepAliveFrom_succ (h start period fuel k : Nat) :
    keepAliveFrom h start period (fuel + 1) k = (do
      Step.sleepUntil (start + k * period)
      let go ← keepAliveRound h
      if go then keepAliveFrom h start period fuel (k + 1) else pure ()) := by
  rw [keepAliveFrom.eq_2]
  funext c
  show Step.sleepUntil (start + k * period) (fun _ => _) =
    Step.sleepUntil (start + k * period) (fun _ => _)
  congr 1
  funext u
  show Step.read (fun _ => _) = Step.read (fun _ => _)
  congr 1
  funext w
  dsimp only
  by_cases hopen : (w.handle h).isOpen = true
  · by_cases hbegun : (w.handle h).isBegun = true
    · simp only [hopen, hbegun, Bool.not_true, Bool.false_eq_true, if_false]
      refine congrArg (keepAlive h).run (funext fun r => ?_)
      cases r with
      | error e =>
        dsimp only
        cases e.isClosed <;> rfl
      | ok u => rfl
    · simp only [hopen, hbegun, Bool.not_true, Bool.false_eq_true, if_false, Bool.not_false, if_true]
      rfl
  · simp only [hopen, Bool.not_false, if_true]
    rfl

/-! ## A keep-alive from its turn -/

/-- What a keep-alive has done once its turn came, on a handle that then read as `hd`, with
log `l`: on an ended handle it is refused as closed and sends nothing; on an open handle not
yet begun it sends nothing; on a begun open handle it sends exactly one request, the empty post
to the address. -/
def KeptAlive (hd : Handle) (l : Array Json) (r : Except TxError Unit) (s : World) : Prop :=
  (hd.state ≠ .open → (∃ msg, r = .error (.closed msg)) ∧ s.log = l) ∧
  (hd.state = .open → hd.location = none → r = .ok () ∧ s.log = l) ∧
  ∀ loc, hd.state = .open → hd.location = some loc → s.log = l.push (postRequest hd loc {})

theorem KeptAlive.of_log {hd : Handle} {l : Array Json} {r : Except TxError Unit} {s s' : World}
    (hk : KeptAlive hd l r s) (hlog : s'.log = s.log) : KeptAlive hd l r s' := by
  obtain ⟨hend, hnone, hsome⟩ := hk
  refine ⟨fun hst => ?_, fun hst hl => ?_, fun loc hst hl => ?_⟩ <;> rw [hlog]
  · exact hend hst
  · exact hnone hst hl
  · exact hsome loc hst hl

section Alone

variable {t h : Nat}

theorem absorb_log_alone {L : Array Json} (acc : Http.Accepted) :
    Alone World.host t (fun a => a.state.log = L) (absorb h acc).run (fun _ a => a.state.log = L) := by
  unfold absorb
  refine Alone.run_liftM_bind (Alone.get_world (·.log = L)) fun w => Alone.of_fact fun hw => ?_
  extract_lets hd expiry
  have hnow : ∀ a : Agenda World Cond, a.state = { w with wakes := [] } → a.state.log = L :=
    fun a ha => by rw [ha]; exact hw
  have hexpiry : ∀ u : Unit, Alone World.host t (fun a => a.state.log = L) (expiry u).run
      (fun _ a => a.state.log = L) := by
    intro u
    dsimp only [expiry]
    split
    · refine Alone.run_liftM (change_log_alone ?_)
      intro s
      rfl
    · exact Alone.run_pure fun _ ha => ha
  split
  · split
    · refine Alone.run_liftM_bind (Alone.pre (change_log_alone ?_) hnow) hexpiry
      intro s
      rfl
    · exact Alone.run_throw_bind hnow
  · exact (hexpiry ()).pre hnow

theorem recordFailure_log_alone {L : Array Json} (f : Http.Failure) :
    Alone World.host t (fun a => a.state.log = L) (recordFailure h f) (fun _ a => a.state.log = L) := by
  unfold recordFailure
  dsimp only
  split
  · exact Alone.bind (change_log_alone fun _ => rfl) fun _ => Alone.pure_of fun _ ha => ha
  · exact Alone.pure_of fun _ ha => ha

/-- A keep-alive takes a ticket and waits for its turn; from its turn it runs alone and does
what `KeptAlive` says of the handle as it then reads. -/
theorem httpKeepAlive_shape (h : Nat) : ∃ turn : Nat → Tx Unit,
    httpKeepAlive h = (do let n ← Step.issue h; Step.waitTurn h n; turn n) ∧
    ∀ t n (hd : Handle) (l : Array Json) m (c : Config) (v : ServerVersion), hd.link = .http m c v →
      Alone World.host t (fun a => Follows h hd l a.state) (turn n).run
        (fun r a => KeptAlive hd l r a.state) := by
  refine ⟨_, rfl, fun t n hd l m c v hlink => ?_⟩
  refine Alone.run_andThen (fun r a => KeptAlive hd l r a.state) ?_ fun r => ?_
  · refine Alone.run_liftM_bind (Alone.get_world (Follows h hd l)) fun w => Alone.of_fact fun hw => ?_
    have hnow : ∀ a : Agenda World Cond, a.state = { w with wakes := [] } → Follows h hd l a.state :=
      fun a ha => by rw [ha]; exact hw.of_handles rfl rfl
    dsimp only
    refine Alone.run_ofExcept_bind (fun _ hok => ?_) fun x hx a ha => ?_
    · have hopen : hd.state = .open := hw.tracks.state ▸ (TxState.ensureOpen_ok_iff _).1 hok
      split
      · rename_i hnone
        refine Alone.run_pure fun a ha => ⟨fun hst => absurd hopen hst, fun _ _ => ⟨rfl, ?_⟩,
          fun loc _ hloc => ?_⟩
        · exact (hnow a ha).tracks.log
        · rw [← hw.tracks.location, hnone] at hloc
          cases hloc
      · rename_i loc hloc
        have hloc' : hd.location = some loc := hw.tracks.location ▸ hloc
        -- the one request is the post to the address; what follows it logs nothing
        have hsent : ∀ (r : Except TxError Unit) (a : Agenda World Cond),
            a.state.log = l.push (postRequest hd loc {}) → KeptAlive hd l r a.state := by
          intro r a hlog
          refine ⟨fun hst => absurd hopen hst, fun _ hnone => ?_, fun loc' _ hl => ?_⟩
          · rw [hloc'] at hnone
            cases hnone
          · rw [hloc'] at hl
            cases hl
            exact hlog
        refine Alone.run_liftM_bind ((post_located_alone hlink hloc' loc {}).pre hnow) fun r => ?_
        split
        · exact (absorb_log_alone _).conseq (fun _ ha => ha.tracks.log) fun r a ha => hsent r a ha
        · exact Alone.run_liftM_bind (vanished_log_alone.pre fun _ ha => ha.tracks.log) fun _ =>
            Alone.run_throw fun a ha => hsent _ a ha
        · exact Alone.run_liftM_bind ((recordFailure_log_alone _).pre fun _ ha => ha.tracks.log)
            fun _ => Alone.run_throw fun a ha => hsent _ a ha
    · -- refused at its turn: the handle has ended, and nothing is sent
      have hst : (w.handle h).state ≠ .open := fun ho => by rw [ho] at hx; cases hx
      obtain ⟨msg, rfl⟩ := TxState.ensureOpen_closed hx
      refine ⟨fun _ => ⟨⟨msg, rfl⟩, (hnow a ha).tracks.log⟩, fun ho => absurd (hw.tracks.state.trans ho) hst,
        fun _ ho => absurd (hw.tracks.state.trans ho) hst⟩
  · unfold Step.finishTicket
    exact Alone.change_world fun s hs a ha => by
      refine hs.of_log ?_
      rw [ha]
      exact World.log_unhold s _

/-- Once its tick has come, a round on an ended handle ends the loop at once, and changes
nothing. -/
theorem keepAliveRound_ended_alone {s : World} (hend : (s.handle h).state ≠ .open) :
    Alone World.host t (fun a => a.state = s) (keepAliveRound h)
      (fun go a => go = false ∧ a.state = { s with wakes := [] }) := by
  unfold keepAliveRound
  refine Alone.bind (Alone.get_world (· = s)) fun w => Alone.of_fact fun hw => ?_
  subst hw
  have hclosed : (w.handle h).isOpen = false := by simpa [Handle.isOpen] using hend
  simp only [hclosed, Bool.not_false, if_true]
  exact Alone.pure_of fun _ ha => ⟨rfl, ha⟩

/-- A round on an open handle that has not begun sends nothing, and the loop goes on. -/
theorem keepAliveRound_unbegun_alone {s : World} (hopen : (s.handle h).state = .open)
    (hunbegun : (s.handle h).isBegun = false) :
    Alone World.host t (fun a => a.state = s) (keepAliveRound h)
      (fun go a => go = true ∧ a.state = { s with wakes := [] }) := by
  unfold keepAliveRound
  refine Alone.bind (Alone.get_world (· = s)) fun w => Alone.of_fact fun hw => ?_
  subst hw
  have hop : (w.handle h).isOpen = true := by simp [Handle.isOpen, hopen]
  simp only [hop, hunbegun, Bool.not_true, Bool.false_eq_true, if_false, Bool.not_false, if_true]
  exact Alone.pure_of fun _ ha => ⟨rfl, ha⟩

/-- Once the tick after a handle ended has come, the keep-alive loop ends at once, sending
nothing and changing nothing. -/
theorem keepAliveFrom_ended_alone {s : World} (hend : (s.handle h).state ≠ .open)
    (start period fuel k : Nat) :
    Alone World.host t (fun a => a.state = s ∧ start + k * period ≤ a.now)
      (keepAliveFrom h start period (fuel + 1) k) (fun _ a => a.state = { s with wakes := [] }) := by
  rw [keepAliveFrom_succ]
  refine Alone.bind (Alone.sleep_due (W := (· = s))) fun _ => ?_
  refine Alone.bind (keepAliveRound_ended_alone hend) fun go => Alone.of_fact fun hgo => ?_
  subst hgo
  exact Alone.pure_of fun _ ha => ha

end Alone

end Transaction

/-! ## What the task sends among other tasks -/

/-- What a relation `L` on the keep-alive's steps must allow, where `P` is known of the world
it starts from: every step that sends nothing, and, where `P` holds, the one request of a
keep-alive, the empty post to the address of an open handle. `P` is kept by every change that
lets the handle's life move on. -/
structure KeepAliveLaw (h : Nat) (P : World → Prop) (L : World → World → Prop) : Prop where
  stable : Stable (World.Settles h) P
  silent : ∀ s s', s'.log = s.log → L s s'
  sends : ∀ s s' loc, P s → (s.handle h).state = .open → (s.handle h).location = some loc →
    s'.log = s.log.push (postRequest (s.handle h) loc {}) → L s s'

/-- An HTTP handle where `P` holds, open at address `loc`, as the keep-alive finds it in its
turn. -/
def World.Posting (h : Nat) (P : World → Prop) (loc : String) (s : World) : Prop :=
  (IsHttp h s ∧ P s) ∧ (s.handle h).state = .open ∧ (s.handle h).location = some loc

theorem guardRules_guar_of {h : Nat} {L : World → World → Prop} {s s' : World}
    (hs : World.Settles h s s') (hl : L s s') : (guardRules h (fun _ _ => True) L).guar s s' :=
  ⟨⟨hs, trivial⟩, hl⟩

namespace KeepAliveLaw

variable {h : Nat} {P : World → Prop} {L : World → World → Prop} (hK : KeepAliveLaw h P L)
include hK

theorem lawful : (guardRules h (fun _ _ => True) L).Lawful :=
  Transaction.guarded_lawful (World.promise_true h) fun s s' _ hlog => hK.silent s s' hlog

theorem quiet : Stable (World.Quiet h) fun s => IsHttp h s ∧ P s :=
  fun _ _ hs hq => ⟨stable_isHttp _ _ hs.1 hq.settles, hK.stable _ _ hs.2 hq.settles⟩

theorem rely : Stable (guardRules h (fun _ _ => True) L).rely fun s => IsHttp h s ∧ P s :=
  fun _ _ hs hr => ⟨stable_isHttp _ _ hs.1 hr.1, hK.stable _ _ hs.2 hr.1⟩

theorem posting_quiet (loc : String) : Stable (World.Quiet h) (World.Posting h P loc) :=
  fun _ _ hs hq => ⟨hK.quiet _ _ hs.1 hq, hq.state.trans hs.2.1, hq.location.trans hs.2.2⟩

/-- After a step that lets the handle's life move on, and the bookkeeping after it, the handle
is still an HTTP handle where `P` holds. -/
theorem after_step {s s₁ s₂ : World} (hs : IsHttp h s ∧ P s) (h₁ : World.Settles h s s₁)
    (h₂ : World.OnlyWatchers h s₁ s₂) : IsHttp h s₂ ∧ P s₂ :=
  hK.quiet _ _ ⟨stable_isHttp _ _ hs.1 h₁, hK.stable _ _ hs.2 h₁⟩ h₂.quiet

end KeepAliveLaw

/-- A step of the keep-alive: it sends nothing, or the empty post to the address of the handle,
open at the time. -/
def World.KeepAliveStep (h : Nat) (s s' : World) : Prop :=
  s'.log = s.log ∨ ∃ loc, (s.handle h).state = .open ∧ (s.handle h).location = some loc ∧
    s'.log = s.log.push (postRequest (s.handle h) loc {})

theorem keepAliveLaw_step (h : Nat) : KeepAliveLaw h (fun _ => True) (World.KeepAliveStep h) where
  stable _ _ _ _ := trivial
  silent _ _ hlog := .inl hlog
  sends _ _ loc _ hopen hloc hlog := .inr ⟨loc, hopen, hloc, hlog⟩

/-- Once the handle has ended, nothing is sent: an ended handle stays ended. -/
theorem keepAliveLaw_ended (h : Nat) :
    KeepAliveLaw h (fun s => (s.handle h).state ≠ .open) SendsNothing where
  stable s s' hend hs := by
    show (s'.handle h).state ≠ .open
    rw [hs.life.state hend]
    exact hend
  silent _ _ hlog := hlog
  sends _ _ _ hend hopen := absurd hopen hend

namespace Transaction

section Keeps

variable {h : Nat} {P : World → Prop} {L : World → World → Prop} (hK : KeepAliveLaw h P L)
include hK

/-- The keep-alive's request: the empty post to the address. -/
theorem send_obeys (loc : String) :
    Triple (guardRules h (fun _ _ => True) L) (World.Posting h P loc)
      (send h .post loc (some (Http.batchBody {}))) (fun _ => World.Posting h P loc) := by
  unfold send
  refine (Triple.modifyGet fun s hs => guardRules_guar_of (World.quiet_sent s _ _ _).settles
    (hK.sends _ _ loc hs.1.2 hs.2.1 hs.2.2 ?_)).post fun _ s' ⟨s, hs, _, hw⟩ =>
      hK.posting_quiet loc _ _ (hK.posting_quiet loc _ _ hs (World.quiet_sent s _ _ _)) hw.quiet
  simp [World.modifyPeer, World.note, postRequest]

theorem post_obeys (loc : String) :
    Triple (guardRules h (fun _ _ => True) L) (World.Posting h P loc) (post h loc {})
      (fun _ => World.Posting h P loc) := by
  unfold post
  refine Triple.bind (send_obeys hK loc) fun r => ?_
  split
  · exact Triple.pure_of fun _ hs => hs
  dsimp only
  split
  · -- a handle with an address takes none from a failed answer
    rename_i _ _ loc' _ _
    have hmove : ∀ s, World.Posting h P loc s → World.Quiet h s (s.modifyHandle h fun hd =>
        if (!(httpParts hd).2.rollsBackOnStatementError && hd.location.isNone) = true then
          { hd with location := some loc' } else hd) :=
      fun s hs => (World.relocated_failedBegin s loc').quiet_of_some hs.2.2
    refine Triple.bind (Triple.modify fun s hs => guardRules_guar_of (hmove s hs).settles (hK.silent _ _ rfl))
      fun _ => Triple.pure_of fun s' ⟨s, hs, hw⟩ => ?_
    exact hK.posting_quiet loc _ _ (hK.posting_quiet loc _ _ hs (hmove s hs)) hw.quiet
  · exact Triple.pure_of fun _ hs => hs

theorem absorb_obeys (loc : String) (acc : Http.Accepted) :
    Triple (guardRules h (fun _ _ => True) L) (World.Posting h P loc) (absorb h acc).run
      (fun _ s => IsHttp h s ∧ P s) := by
  unfold absorb
  refine Triple.run_get_bind (hK.lawful) fun w hw => ?_
  have hnow : ∀ s, World.Posting h P loc w ∧ (guardRules h (fun _ _ => True) L).sched w s →
      World.Posting h P loc s := fun s hs => hK.posting_quiet loc _ _ hs.1 hs.2.quiet
  extract_lets hd expiry
  have hexpiry : ∀ u : Unit, Triple (guardRules h (fun _ _ => True) L) (World.Posting h P loc)
      (expiry u).run (fun _ => World.Posting h P loc) := by
    intro u
    dsimp only [expiry]
    split
    · exact Triple.run_liftM (change_guarded (World.promise_true h)
        (fun s s' _ hlog => hK.silent s s' hlog) (fun s => World.quiet_modifyHandle s h fun _ => ⟨rfl, rfl⟩)
        (fun _ => rfl) (hK.posting_quiet loc))
    · exact Triple.run_pure fun _ hs => hs
  -- the handle has its address, so the answer gives it none
  have hsome : hd.location.isNone = false := by
    simp only [hd, hw.2.2, Option.isNone_some]
  simp only [hsome, Bool.false_eq_true, if_false]
  exact ((hexpiry ()).pre hnow).post fun _ _ hs => hs.1

theorem vanished_obeys (loc : String) :
    Triple (guardRules h (fun _ _ => True) L) (World.Posting h P loc) (vanished h)
      (fun _ s => IsHttp h s ∧ P s) := by
  unfold vanished setState
  have hmove : ∀ s, World.Posting h P loc s → World.Settles h s
      (s.modifyHandle h fun hd => { hd with state := .rolledBack }) :=
    fun s hs => s.settles_setState hs.2.1 (by decide)
  refine Triple.bind (Triple.modify fun s hs => guardRules_guar_of (hmove s hs) (hK.silent _ _ rfl)) fun _ =>
    Triple.pure_of fun s' ⟨s, hs, hw⟩ => ?_
  have hs' := hmove s hs
  exact ⟨stable_isHttp _ _ (stable_isHttp _ _ hs.1.1 hs') hw.quiet.settles,
    hK.stable _ _ (hK.stable _ _ hs.1.2 hs') hw.quiet.settles⟩

theorem recordFailure_obeys (loc : String) (f : Http.Failure) :
    Triple (guardRules h (fun _ _ => True) L) (World.Posting h P loc) (recordFailure h f)
      (fun _ s => IsHttp h s ∧ P s) := by
  unfold recordFailure
  dsimp only
  split
  · have hmove := fun s (hs : World.Posting h P loc s) =>
      settles_recordFailure (h := h) s hs.1.1.lt_size hs.2.1 f.toError
    refine Triple.bind (Triple.modify fun s hs => guardRules_guar_of (hmove s hs) (hK.silent _ _ rfl)) fun _ =>
      Triple.pure_of fun s' ⟨s, hs, hw⟩ => ?_
    exact ⟨stable_isHttp _ _ (stable_isHttp _ _ hs.1.1 (hmove s hs)) hw.quiet.settles,
      hK.stable _ _ (hK.stable _ _ hs.1.2 (hmove s hs)) hw.quiet.settles⟩
  · exact Triple.pure_of fun _ hs => hs.1

theorem httpKeepAlive_obeys :
    Triple (guardRules h (fun _ _ => True) L) (fun s => IsHttp h s ∧ P s) (httpKeepAlive h).run
      (fun _ s => IsHttp h s ∧ P s) := by
  have hq := hK.quiet
  have hLq : ∀ s s', World.Quiet h s s' → s'.log = s.log → L s s' := fun s s' _ hlog => hK.silent s s' hlog
  unfold httpKeepAlive
  refine Triple.run_liftM_bind (issue_guarded (World.promise_true h) hLq hq h) fun n => ?_
  refine Triple.run_liftM_bind (await_guarded hK.rely _) fun _ => ?_
  refine Triple.run_andThen (fun _ s => IsHttp h s ∧ P s) ?_ fun _ =>
    finishTicket_guarded (World.promise_true h) hLq hq h n
  refine Triple.run_get_bind hK.lawful fun w hw => ?_
  dsimp only
  refine Triple.run_ofExcept_bind (fun _ hok => ?_) fun _ _ s hs => hq _ _ hs.1 hs.2.quiet
  have hopen : (w.handle h).state = .open := (TxState.ensureOpen_ok_iff _).1 hok
  split
  · exact Triple.run_pure fun s hs => hq _ _ hs.1 hs.2.quiet
  rename_i loc hloc
  -- in its turn the keep-alive finds the handle open at its address, and posts there once
  refine Triple.run_liftM_bind ((post_obeys hK loc).pre fun s hs =>
    hK.posting_quiet loc _ _ ⟨hs.1, hopen, hloc⟩ hs.2.quiet) fun r => ?_
  split
  · exact absorb_obeys hK loc _
  · exact Triple.run_liftM_bind (vanished_obeys hK loc) fun _ => Triple.run_throw fun _ hs => hs
  · exact Triple.run_liftM_bind (recordFailure_obeys hK loc _) fun _ => Triple.run_throw fun _ hs => hs

theorem keepAlive_obeys :
    Triple (guardRules h (fun _ _ => True) L) (fun s => IsHttp h s ∧ P s) (keepAlive h).run
      (fun _ s => IsHttp h s ∧ P s) := by
  unfold keepAlive
  refine Triple.run_get_bind hK.lawful fun w hw => ?_
  dsimp only
  split
  · exact (httpKeepAlive_obeys hK).pre fun s hs => hK.quiet _ _ hs.1 hs.2.quiet
  · exact (hw.1.not_session ‹_›).elim

theorem keepAliveRound_obeys :
    Triple (guardRules h (fun _ _ => True) L) (fun s => IsHttp h s ∧ P s) (keepAliveRound h)
      (fun _ s => IsHttp h s ∧ P s) := by
  have hLq : ∀ s s', World.Quiet h s s' → s'.log = s.log → L s s' := fun s s' _ hlog => hK.silent s s' hlog
  unfold keepAliveRound
  refine Triple.bind (read_guarded (World.promise_true h) hLq hK.quiet) fun w => ?_
  dsimp only
  split
  · exact Triple.pure_of fun _ hs => hs
  split
  · exact Triple.pure_of fun _ hs => hs
  refine Triple.bind (keepAlive_obeys hK) fun r => ?_
  cases r with
  | error e => exact Triple.pure_of fun _ hs => hs
  | ok u => exact Triple.pure_of fun _ hs => hs

theorem keepAliveFrom_obeys (start period fuel k : Nat) :
    Triple (guardRules h (fun _ _ => True) L) (fun s => IsHttp h s ∧ P s)
      (keepAliveFrom h start period fuel k) (fun _ s => IsHttp h s ∧ P s) := by
  -- one round per unit of fuel
  induction fuel generalizing k with
  | zero => exact Triple.pure_of fun _ hs => hs
  | succ fuel ih =>
    rw [keepAliveFrom_succ]
    refine Triple.bind (await_guarded hK.rely _) fun _ => ?_
    refine Triple.bind (keepAliveRound_obeys hK) fun go => ?_
    split
    · exact ih (k + 1)
    · exact Triple.pure_of fun _ hs => hs

theorem keepAliveTask_obeys (period : Nat) :
    Triple (guardRules h (fun _ _ => True) L) (fun s => IsHttp h s ∧ P s) (keepAliveTask h period)
      (fun _ s => IsHttp h s ∧ P s) := by
  have hLq : ∀ s s', World.Quiet h s s' → s'.log = s.log → L s s' := fun s s' _ hlog => hK.silent s s' hlog
  unfold keepAliveTask
  refine Triple.bind (read_guarded (World.promise_true h) hLq hK.quiet) fun w => ?_
  exact Triple.bind (await_guarded hK.rely _) fun _ => keepAliveFrom_obeys hK _ _ _ _

end Keeps

/-- Among any other tasks that let the handle's life move on as it may, every step of the
keep-alive task sends nothing, or the empty post to the address of the open handle. -/
theorem keepAliveTask_steps (h period : Nat) :
    Triple (guardRules h (fun _ _ => True) (World.KeepAliveStep h)) (IsHttp h)
      (keepAliveTask h period) (fun _ => IsHttp h) :=
  ((keepAliveTask_obeys (keepAliveLaw_step h) period).pre fun _ hs => ⟨hs, trivial⟩).post
    fun _ _ hs => hs.1

/-- Once the handle has ended, the keep-alive loop sends nothing. -/
theorem keepAliveFrom_ended_silent (h start period fuel k : Nat) :
    Triple (guardRules h (fun _ _ => True) SendsNothing)
      (fun s => IsHttp h s ∧ (s.handle h).state ≠ .open) (keepAliveFrom h start period fuel k)
      (fun _ s => IsHttp h s ∧ (s.handle h).state ≠ .open) :=
  keepAliveFrom_obeys (keepAliveLaw_ended h) start period fuel k

end Transaction

end TxnCoord
