import TxnCoord.Proofs.Transaction.Turns
import TxnCoord.Proofs.Transaction.Life
/-!
# Statement failures on HTTP handles

A statement failure of an HTTP handle is remembered, the first one only. A server from 3.0
on rolls the transaction back with it (`Modern`); an older one keeps the transaction open
(`Older`). `failureRules h L` are the rules of `Rules` for code on handle `h`:

* every step lets the handle's life move on (`Handle.Evolves`), keeps its link and the
  handle of every adapter, and only adds to the log (`World.Settles`);
* no failure appears on an open transaction of a server that rolls back on one (`Clean`):
  recording the failure rolls the transaction back in the same step;
* every step is one that `L` allows as well, and the scheduler's bookkeeping changes only
  the handle's watchers.

Code reads a handle and acts on what it read in the same atomic segment, so each step
lemma carries what the code knows as a parameter `P`, stable under the steps it takes.

A run of a batch, or a keep-alive, on a clean HTTP handle that reports a statement failure
has left its outcome behind (`FailureOutcome`): on a server that rolls back, the
transaction rolled back with that very failure (`RolledBackBy`); on an older server, the
transaction still open.

    Triple (failureRules h fun _ _ => True) (fun s => IsHttp h s ∧ Clean h s)
      (execute h batch).run (Reports h)                          (Transaction.execute_reports)
-/

namespace TxnCoord

open Transaction

/-- Handle `h` is an HTTP handle. -/
def IsHttp (h : Nat) (s : World) : Prop := ∃ v c ver, (s.handle h).link = .http v c ver

/-- Handle `h` is an HTTP handle on a server that rolls back on a statement failure. -/
def Modern (h : Nat) (s : World) : Prop :=
  ∃ v c ver, (s.handle h).link = .http v c ver ∧ ver.rollsBackOnStatementError = true

/-- Handle `h` is an HTTP handle on an older server, which keeps the transaction open after a
statement failure. -/
def Older (h : Nat) (s : World) : Prop :=
  ∃ v c ver, (s.handle h).link = .http v c ver ∧ ver.rollsBackOnStatementError = false

/-- On a server that rolls back on a statement failure, an open transaction has recorded
none. -/
def Clean (h : Nat) (s : World) : Prop :=
  (httpParts (s.handle h)).2.rollsBackOnStatementError = true →
    (s.handle h).state = .open → (s.handle h).failure = none

/-- The server rolled handle `h`'s transaction back with statement failure `e`. -/
structure RolledBackBy (h : Nat) (e : TxError) (s : World) : Prop where
  modern : Modern h s
  state : (s.handle h).state = .rolledBack
  failure : (s.handle h).failure = some e

/-- Adapter `a` exists and works on handle `h`. -/
def AdapterOf (h a : Nat) (s : World) : Prop := a < s.adapters.size ∧ (s.adapter a).handle = h

theorem httpParts_congr {hd hd' : Handle} (h : hd'.link = hd.link) : httpParts hd' = httpParts hd := by
  unfold httpParts
  rw [h]

/-- Whether a transaction has no failure while open depends on its link, state and failure
only. -/
theorem Clean.of_same {h : Nat} {s s' : World} (hc : Clean h s)
    (hlink : (s'.handle h).link = (s.handle h).link)
    (hstate : (s'.handle h).state = (s.handle h).state)
    (hfailure : (s'.handle h).failure = (s.handle h).failure) : Clean h s' := by
  intro hr ho
  rw [httpParts_congr hlink] at hr
  rw [hstate] at ho
  rw [hfailure]
  exact hc hr ho

theorem Handle.via_congr {hd hd' : Handle} (hl : hd'.link = hd.link) : hd'.via = hd.via := by
  unfold Handle.via
  rw [hl]

namespace World

/-- The scheduler's bookkeeping around code on handle `h`: the handle changes only in its
watchers, and the scope records, the adapters and the log are as they were. -/
structure OnlyWatchers (h : Nat) (s s' : World) : Prop where
  handle : s'.handle h = { s.handle h with watchers := (s'.handle h).watchers }
  records : s'.records = s.records
  adapters : s'.adapters = s.adapters
  log : s'.log = s.log

/-- A step that leaves handle `h`'s life and link and the adapters alone, and at most adds
to the log. -/
structure Quiet (h : Nat) (s s' : World) : Prop where
  life : (s'.handle h).life = (s.handle h).life
  link : (s'.handle h).link = (s.handle h).link
  adapters : s'.adapters = s.adapters
  log : s.log.toList <+: s'.log.toList

/-- How the world may change around code on handle `h`: the handle's life only moves
forward and it keeps its link, no failure appears on an open transaction of a server that
rolls back on one, and every adapter keeps its handle. -/
structure Settles (h : Nat) (s s' : World) : Prop where
  life : (s.handle h).Evolves (s'.handle h)
  link : (s'.handle h).link = (s.handle h).link
  clean : Clean h s → Clean h s'
  adapters : ∀ a, a < s.adapters.size →
    a < s'.adapters.size ∧ (s'.adapter a).handle = (s.adapter a).handle
  log : s.log.toList <+: s'.log.toList

variable {h : Nat}

theorem OnlyWatchers.refl (s : World) : OnlyWatchers h s s := ⟨rfl, rfl, rfl, rfl⟩

theorem OnlyWatchers.trans {a b c : World} (h₁ : OnlyWatchers h a b) (h₂ : OnlyWatchers h b c) :
    OnlyWatchers h a c := by
  refine ⟨?_, h₂.records.trans h₁.records, h₂.adapters.trans h₁.adapters, h₂.log.trans h₁.log⟩
  rw [h₂.handle, h₁.handle]

theorem OnlyWatchers.pending {s s' : World} (hw : OnlyWatchers h s s') :
    (s'.handle h).pending = (s.handle h).pending := by
  rw [hw.handle]

theorem OnlyWatchers.record {s s' : World} (hw : OnlyWatchers h s s') (i : Nat) :
    s'.record i = s.record i := by
  simp only [World.record, hw.records]

theorem OnlyWatchers.of_handles {s s' : World} (he : s'.handles = s.handles)
    (hr : s'.records = s.records) (ha : s'.adapters = s.adapters) (hl : s'.log = s.log) :
    OnlyWatchers h s s' := by
  refine ⟨?_, hr, ha, hl⟩
  simp only [World.handle, he]

theorem OnlyWatchers.quiet {s s' : World} (hw : OnlyWatchers h s s') : Quiet h s s' := by
  refine ⟨?_, ?_, hw.adapters, hw.log ▸ List.prefix_refl _⟩
  · rw [hw.handle]
    rfl
  · rw [hw.handle]

theorem Quiet.of_handles {s s' : World} (he : s'.handles = s.handles)
    (ha : s'.adapters = s.adapters) (hl : s'.log = s.log) : Quiet h s s' := by
  refine ⟨?_, ?_, ha, hl ▸ List.prefix_refl _⟩ <;> simp only [World.handle, he]

theorem Quiet.trans {a b c : World} (h₁ : Quiet h a b) (h₂ : Quiet h b c) : Quiet h a c :=
  ⟨h₂.life.trans h₁.life, h₂.link.trans h₁.link, h₂.adapters.trans h₁.adapters, h₁.log.trans h₂.log⟩

/-- What a quiet step keeps: the state, the failure and the link of the handle. -/
theorem Quiet.state {s s' : World} (hq : Quiet h s s') : (s'.handle h).state = (s.handle h).state :=
  congrArg Prod.fst hq.life

theorem Quiet.failure {s s' : World} (hq : Quiet h s s') :
    (s'.handle h).failure = (s.handle h).failure :=
  congrArg (fun l => l.2.2) hq.life

theorem Quiet.location {s s' : World} (hq : Quiet h s s') :
    (s'.handle h).location = (s.handle h).location :=
  congrArg (fun l => l.2.1) hq.life

theorem Quiet.clean {s s' : World} (hq : Quiet h s s') (hc : Clean h s) : Clean h s' :=
  hc.of_same hq.link hq.state hq.failure

theorem Quiet.settles {s s' : World} (hq : Quiet h s s') : Settles h s s' where
  life := Handle.Evolves.of_life hq.life
  link := hq.link
  clean := hq.clean
  adapters a ha := by
    simp only [World.adapter, hq.adapters]
    exact ⟨ha, trivial⟩
  log := hq.log

theorem Settles.refl (s : World) : Settles h s s := (OnlyWatchers.refl s).quiet.settles

theorem Settles.trans {a b c : World} (h₁ : Settles h a b) (h₂ : Settles h b c) : Settles h a c where
  life := h₁.life.trans h₂.life
  link := h₂.link.trans h₁.link
  clean hc := h₂.clean (h₁.clean hc)
  adapters x hx := by
    obtain ⟨hx₁, he₁⟩ := h₁.adapters x hx
    obtain ⟨hx₂, he₂⟩ := h₂.adapters x hx₁
    exact ⟨hx₂, he₂.trans he₁⟩
  log := h₁.log.trans h₂.log

/-- A change of one handle that leaves its life and link alone is quiet. -/
theorem quiet_modifyHandle (s : World) (i : Nat) {f : Handle → Handle}
    (hf : ∀ hd, (f hd).life = hd.life ∧ (f hd).link = hd.link) : Quiet h s (s.modifyHandle i f) :=
  ⟨handle_rel_modifyHandle (fun a b => b.life = a.life) (fun _ => rfl) s i f (hf _).1 h,
    handle_rel_modifyHandle (fun a b => b.link = a.link) (fun _ => rfl) s i f (hf _).2 h, rfl,
    List.prefix_refl _⟩

theorem Quiet.hold {s w : World} (hq : Quiet h s w) (x : Hold) : Quiet h s (w.hold x) :=
  ⟨hq.life, hq.link, hq.adapters, hq.log⟩

/-- A step that may give handle `h` an address where it had none, and otherwise leaves its
state, failure and link and the adapters alone, at most adding to the log. -/
structure Relocated (h : Nat) (s s' : World) : Prop where
  state : (s'.handle h).state = (s.handle h).state
  failure : (s'.handle h).failure = (s.handle h).failure
  location : ∀ loc, (s.handle h).location = some loc → (s'.handle h).location = some loc
  link : (s'.handle h).link = (s.handle h).link
  adapters : s'.adapters = s.adapters
  log : s.log.toList <+: s'.log.toList

theorem Quiet.relocated {s s' : World} (hq : Quiet h s s') : Relocated h s s' where
  state := hq.state
  failure := hq.failure
  location _ hl := (congrArg (fun l => l.2.1) hq.life).trans hl
  link := hq.link
  adapters := hq.adapters
  log := hq.log

theorem Relocated.trans {a b c : World} (h₁ : Relocated h a b) (h₂ : Relocated h b c) :
    Relocated h a c :=
  ⟨h₂.state.trans h₁.state, h₂.failure.trans h₁.failure,
    fun loc hl => h₂.location loc (h₁.location loc hl), h₂.link.trans h₁.link,
    h₂.adapters.trans h₁.adapters, h₁.log.trans h₂.log⟩

theorem Relocated.settles {s s' : World} (hr : Relocated h s s') : Settles h s s' where
  life := ⟨fun _ => hr.state, hr.location, fun _ hf => hr.failure.trans hf⟩
  link := hr.link
  clean hc := hc.of_same hr.link hr.state hr.failure
  adapters a ha := by
    simp only [World.adapter, hr.adapters]
    exact ⟨ha, trivial⟩
  log := hr.log

/-- A change of one handle that keeps its state, failure and link, and changes its address
only where it had none. -/
theorem relocated_modifyHandle (s : World) (i : Nat) {f : Handle → Handle}
    (hf : (f (s.handle i)).state = (s.handle i).state ∧ (f (s.handle i)).failure = (s.handle i).failure ∧
      (f (s.handle i)).link = (s.handle i).link ∧
      ∀ loc, (s.handle i).location = some loc → (f (s.handle i)).location = some loc) :
    Relocated h s (s.modifyHandle i f) := by
  obtain ⟨hs, hf, hl, hloc⟩ := handle_rel_modifyHandle (fun a b => b.state = a.state ∧
    b.failure = a.failure ∧ b.link = a.link ∧ ∀ loc, a.location = some loc → b.location = some loc)
    (fun _ => ⟨rfl, rfl, rfl, fun _ h => h⟩) s i f hf h
  exact ⟨hs, hf, hloc, hl, rfl, List.prefix_refl _⟩

/-- Ending an open transaction: its life moves on, and with it no longer open, it is clean. -/
theorem settles_setState (s : World) {st : TxState} (hopen : (s.handle h).state = .open)
    (hst : st ≠ .open) : Settles h s (s.modifyHandle h fun hd => { hd with state := st }) where
  life := handle_rel_modifyHandle Handle.Evolves Handle.Evolves.refl s h _
    (Handle.Evolves.of_open hopen st) h
  link := handle_rel_modifyHandle (fun a b => b.link = a.link) (fun _ => rfl) s h _ rfl h
  clean hc hr ho := by
    by_cases hlt : h < s.handles.size
    · rw [handle_modifyHandle_self s hlt] at ho
      exact absurd ho hst
    · -- a handle out of range is not there to change
      have hout : ¬(h = h ∧ h < s.handles.size) := fun hh => hlt hh.2
      rw [handle_modifyHandle, if_neg hout] at hr ho ⊢
      exact hc hr ho
  adapters a ha := ⟨ha, rfl⟩
  log := List.prefix_refl _

/-- An older server's failed begin gives its address only to a handle that had none. -/
theorem relocated_failedBegin (s : World) (loc : String) :
    Relocated h s (s.modifyHandle h fun hd =>
      if (!(httpParts hd).2.rollsBackOnStatementError && hd.location.isNone) = true then
        { hd with location := some loc } else hd) := by
  refine relocated_modifyHandle s h ?_
  split
  · rename_i hc
    refine ⟨rfl, rfl, rfl, fun l hl => ?_⟩
    simp [hl] at hc
  · exact ⟨rfl, rfl, rfl, fun _ hl => hl⟩

theorem quiet_releaseTicket (w : World) (i n : Nat) : Quiet h w (w.releaseTicket i n) :=
  have hq : Quiet h w (w.modifyHandle i fun hd =>
      { hd with tickets := hd.tickets.release n, watchers := [] }) :=
    quiet_modifyHandle w i fun _ => ⟨rfl, rfl⟩
  ⟨hq.life, hq.link, hq.adapters, hq.log⟩

theorem quiet_unhold (s : World) (x : Hold) : Quiet h s (s.unhold x) := by
  refine Quiet.of_handles (s.handles_unhold x) ?_ (s.log_unhold x)
  unfold World.unhold
  split
  · rfl
  · split <;> rfl

/-- A request goes out: the log gains its entry, a peer its answer, and no handle or adapter
changes. -/
theorem quiet_sent (s : World) (m : Nat) (e : Json) (f : Peer → Peer) :
    World.Quiet h s ((s.note e).modifyPeer m f) :=
  ⟨rfl, rfl, rfl, by simp [World.modifyPeer, World.note]⟩

/-- Giving a resource back touches neither the adapters nor the log. -/
theorem give_frame (w : World) (x : Hold) :
    (w.give x).adapters = w.adapters ∧ (w.give x).log = w.log := by
  cases x with
  | pending i => exact ⟨rfl, rfl⟩
  | ticket i n => exact ⟨rfl, rfl⟩
  | lock m =>
    show (w.unlock m).adapters = _ ∧ (w.unlock m).log = _
    unfold World.unlock
    split <;> exact ⟨rfl, rfl⟩
  | unitRef u => cases u <;> exact ⟨rfl, rfl⟩

/-- Giving back what an owner held leaves every life, link and adapter as it was. -/
theorem settles_releaseOwner (w : World) (o : Nat) : Settles h w (w.releaseOwner o) := by
  have hlife : ((w.releaseOwner o).handle h).life = (w.handle h).life := w.sameLife_releaseOwner o h
  have hlink : ((w.releaseOwner o).handle h).link = (w.handle h).link :=
    rel_releaseOwner (fun w w' => (w'.handle h).link = (w.handle h).link) (fun _ _ => rfl)
      (fun _ _ _ h₁ h₂ => h₂.trans h₁) (fun w x => (w.turnsAdvance_give h x).1) w o
  have hframe : (w.releaseOwner o).adapters = w.adapters ∧ (w.releaseOwner o).log = w.log :=
    rel_releaseOwner (fun w w' => w'.adapters = w.adapters ∧ w'.log = w.log) (fun _ _ => ⟨rfl, rfl⟩)
      (fun _ _ _ h₁ h₂ => ⟨h₂.1.trans h₁.1, h₂.2.trans h₁.2⟩) (fun w x => w.give_frame x) w o
  refine ⟨Handle.Evolves.of_life hlife, hlink, fun hc => hc.of_same hlink
    (congrArg Prod.fst hlife) (congrArg (fun l => l.2.2) hlife), fun a ha => ?_,
    hframe.2 ▸ List.prefix_refl _⟩
  simp only [World.adapter, hframe.1]
  exact ⟨ha, trivial⟩

end World

/-- The rules for code on handle `h`: the world changes only as `World.Settles` allows, the
bookkeeping touches only the handle's watchers, and every step of the code is one that `L`
allows as well. -/
def failureRules (h : Nat) (L : World → World → Prop) : Rules World Cond where
  rely := World.Settles h
  sched := World.OnlyWatchers h
  guar s s' := World.Settles h s s' ∧ L s s'
  woken _ _ := True

theorem failureRules_lawful (h : Nat) {L : World → World → Prop} (hL : ∀ s, L s s) :
    (failureRules h L).Lawful where
  rely_refl := World.Settles.refl
  rely_trans _ _ _ := World.Settles.trans
  sched_refl := World.OnlyWatchers.refl
  sched_trans _ _ _ := World.OnlyWatchers.trans
  guar_refl s := ⟨World.Settles.refl s, hL s⟩
  sched_rely _ _ hw := hw.quiet.settles
  guar_rely _ _ hg := hg.1

theorem World.host_keeps_failureRules (h : Nat) (L : World → World → Prop) :
    World.host.Keeps (failureRules h L) where
  listen c t s := by
    cases c with
    | turn i n =>
      refine ⟨?_, rfl, rfl, rfl⟩
      exact World.handle_rel_modifyHandle (fun a b => b = { a with watchers := b.watchers })
        (fun _ => rfl) s i _ (by split <;> rfl) h
    | granted m o => exact World.OnlyWatchers.of_handles rfl rfl rfl rfl
  forget t s := by
    refine ⟨?_, rfl, rfl, rfl⟩
    simp only [World.host, World.handle, Array.getElem?_map]
    cases s.handles[h]? <;> rfl
  release o s := s.settles_releaseOwner o
  takeWakes s := World.OnlyWatchers.of_handles rfl rfl rfl rfl
  fresh s := World.OnlyWatchers.of_handles rfl rfl rfl rfl
  enter t o n s := World.OnlyWatchers.of_handles rfl rfl rfl rfl
  spawned p c s := by
    simp only [World.host]
    split <;> exact World.OnlyWatchers.of_handles rfl rfl rfl rfl
  holds _ _ _ := trivial

section Knowledge

variable {h : Nat} {e : TxError}

theorem stable_isHttp : Stable (World.Settles h) (IsHttp h) := fun _ _ ⟨v, c, ver, hl⟩ hs =>
  ⟨v, c, ver, hs.link.trans hl⟩

/-- Whether a server rolls back on a statement failure is a matter of the link alone. -/
theorem modern_congr {s s' : World} (hl : (s'.handle h).link = (s.handle h).link) :
    Modern h s' ↔ Modern h s := by
  simp only [Modern, hl]

theorem older_congr {s s' : World} (hl : (s'.handle h).link = (s.handle h).link) :
    Older h s' ↔ Older h s := by
  simp only [Older, hl]

theorem stable_modern : Stable (World.Settles h) (Modern h) := fun _ _ hm hs =>
  (modern_congr hs.link).2 hm

theorem stable_older : Stable (World.Settles h) (Older h) := fun _ _ ho hs =>
  (older_congr hs.link).2 ho

theorem stable_clean : Stable (World.Settles h) (Clean h) := fun _ _ hc hs => hs.clean hc

theorem stable_rolledBackBy : Stable (World.Settles h) (RolledBackBy h e) := fun _ _ hr hs =>
  ⟨stable_modern _ _ hr.modern hs, (hs.life.state (by rw [hr.state]; decide)).trans hr.state,
    hs.life.failure e hr.failure⟩

theorem stable_adapterOf (a : Nat) : Stable (World.Settles h) (AdapterOf h a) := fun _ _ ⟨ha, he⟩ hs =>
  ⟨(hs.adapters a ha).1, (hs.adapters a ha).2.trans he⟩

theorem Stable.quiet {P : World → Prop} (hP : Stable (World.Settles h) P) :
    Stable (World.Quiet h) P :=
  fun _ _ hp hq => hP _ _ hp hq.settles

theorem Modern.isHttp {s : World} (hm : Modern h s) : IsHttp h s :=
  let ⟨v, c, ver, hl, _⟩ := hm
  ⟨v, c, ver, hl⟩

/-- An HTTP handle is one that exists. -/
theorem IsHttp.lt_size {s : World} (hh : IsHttp h s) : h < s.handles.size := by
  obtain ⟨v, c, ver, hl⟩ := hh
  refine Nat.lt_of_not_le fun hge => ?_
  rw [World.handle, Array.getElem?_eq_none hge, Option.getD_none] at hl
  cases hl

theorem Modern.rollsBack {s : World} (hm : Modern h s) :
    (httpParts (s.handle h)).2.rollsBackOnStatementError = true := by
  obtain ⟨v, c, ver, hl, hr⟩ := hm
  simp only [httpParts, hl]
  exact hr

theorem Older.rollsBack {s : World} (ho : Older h s) :
    (httpParts (s.handle h)).2.rollsBackOnStatementError = false := by
  obtain ⟨v, c, ver, hl, hr⟩ := ho
  simp only [httpParts, hl]
  exact hr

theorem Clean.of_not_open {s : World} (hs : (s.handle h).state ≠ .open) : Clean h s :=
  fun _ ho => absurd ho hs

theorem IsHttp.not_session {s : World} (hh : IsHttp h s) {v : Nat} (hl : (s.handle h).link = .session v) :
    False := by
  obtain ⟨_, _, _, hh⟩ := hh
  rw [hh] at hl
  cases hl

theorem Older.clean {s : World} (ho : Older h s) : Clean h s := by
  intro hr
  rw [ho.rollsBack] at hr
  cases hr

theorem Older.isHttp {s : World} (ho : Older h s) : IsHttp h s :=
  let ⟨v, c, ver, hl, _⟩ := ho
  ⟨v, c, ver, hl⟩

end Knowledge

namespace Transaction

section Steps

variable {h : Nat} {L : World → World → Prop} {P : World → Prop} {α : Type}

/-- A step that leaves handle `h`'s life and link, the adapters and the log alone keeps to
the rules and keeps what they keep. -/
theorem change_settled (hL : ∀ s s', s'.log = s.log → L s s') {f : World → World}
    (hf : ∀ s, World.Quiet h s (f s)) (hlog : ∀ s, (f s).log = s.log)
    (hP : Stable (World.Quiet h) P) : Triple (failureRules h L) P (Step.change f) (fun _ => P) := by
  refine (Triple.modify fun s _ => ?_).post fun _ _ ⟨s, hs, hr⟩ =>
    hP _ _ (hP _ _ hs (hf s)) hr.quiet
  exact ⟨(hf s).settles, hL _ _ (hlog s)⟩

theorem modifyGet_settled (hL : ∀ s s', s'.log = s.log → L s s') {f : World → α × World}
    (hf : ∀ s, World.Quiet h s (f s).2) (hlog : ∀ s, (f s).2.log = s.log)
    (hP : Stable (World.Quiet h) P) :
    Triple (failureRules h L) P (MonadStateOf.modifyGet f : Step α) (fun _ => P) := by
  refine (Triple.modifyGet fun s _ => ?_).post fun _ _ ⟨s, hs, _, hr⟩ =>
    hP _ _ (hP _ _ hs (hf s)) hr.quiet
  exact ⟨(hf s).settles, hL _ _ (hlog s)⟩

theorem read_settled (hL : ∀ s s', s'.log = s.log → L s s') (hP : Stable (World.Quiet h) P) :
    Triple (failureRules h L) P Step.read (fun _ => P) :=
  (Triple.get (failureRules_lawful h fun s => hL s s rfl)).post fun _ _ ⟨hp, hs⟩ => hP _ _ hp hs.quiet

theorem await_settled (hP : Stable (World.Settles h) P) (w : Await Cond) :
    Triple (failureRules h L) P (Async.await w) (fun _ => P) :=
  (Triple.await w).post fun _ _ hs => After.of_stable hP hs.1

theorem issue_settled (hL : ∀ s s', s'.log = s.log → L s s') (hP : Stable (World.Quiet h) P)
    (i : Nat) : Triple (failureRules h L) P (Step.issue i) (fun _ => P) := by
  refine modifyGet_settled hL (fun s => ?_) (fun _ => rfl) hP
  simp only [Sequencer.issue]
  apply World.Quiet.hold
  apply World.quiet_modifyHandle
  exact fun _ => ⟨rfl, rfl⟩

theorem finishTicket_settled (hL : ∀ s s', s'.log = s.log → L s s')
    (hP : Stable (World.Quiet h) P) (i n : Nat) :
    Triple (failureRules h L) P (Step.finishTicket i n) (fun _ => P) :=
  change_settled hL (fun s => (World.quiet_unhold s _).trans (World.quiet_releaseTicket _ i n))
    (fun s => s.log_unhold _) hP

theorem beginPending_settled (hL : ∀ s s', s'.log = s.log → L s s')
    (hP : Stable (World.Quiet h) P) (i : Nat) :
    Triple (failureRules h L) P (Step.beginPending i) (fun _ => P) := by
  refine change_settled hL (fun s => ?_) (fun _ => rfl) hP
  apply World.Quiet.hold
  apply World.quiet_modifyHandle
  exact fun _ => ⟨rfl, rfl⟩

theorem endPending_settled (hL : ∀ s s', s'.log = s.log → L s s')
    (hP : Stable (World.Quiet h) P) (i : Nat) :
    Triple (failureRules h L) P (Step.endPending i) (fun _ => P) := by
  refine change_settled hL (fun s => (World.quiet_unhold s (.pending i)).trans ?_)
    (fun s => s.log_unhold _) hP
  apply World.quiet_modifyHandle
  exact fun _ => ⟨rfl, rfl⟩

/-- Sending a request of handle `h`: the request has the method and address asked for, the
answer is the peer's answer to it, and the step adds the request to the log and changes
nothing else that the rules watch. -/
theorem send_settled {method : Http.Method} {uri : String}
    (hL : ∀ s s' (req : Http.Request), req.method = method → req.uri = uri →
      s'.log = s.log.push (Peer.requestEntry (s.handle h).via req) → L s s')
    (body : Option Json) :
    Triple (failureRules h L) P (send h method uri body) (fun r s' => ∃ s req, P s ∧
      req.method = method ∧ req.uri = uri ∧ r = ((s.peer (s.handle h).via).send s.expires req).1 ∧
      World.Quiet h s s' ∧ s.log.toList ++ [Peer.requestEntry (s.handle h).via req] <+: s'.log.toList) := by
  unfold send
  refine (Triple.modifyGet fun s _ => ?_).post fun r s' ⟨s, hs, hr, hw⟩ => ?_
  · exact ⟨(World.quiet_sent s _ _ _).settles, hL _ _ _ rfl rfl rfl⟩
  · refine ⟨s, _, hs, rfl, rfl, hr.symm, (World.quiet_sent s _ _ _).trans hw.quiet, ?_⟩
    rw [hw.log]
    simp [World.modifyPeer, World.note]

/-- Posting a batch sends one POST to the address; the one change it makes besides is the
address that an older server's failed begin gives an unbegun handle. -/
theorem post_settled {uri : String}
    (hL : ∀ s s' (req : Http.Request), req.method = .post → req.uri = uri →
      s'.log = s.log.push (Peer.requestEntry (s.handle h).via req) → L s s')
    (hL' : ∀ s s', s'.log = s.log → L s s') (batch : Batch) :
    Triple (failureRules h L) P (post h uri batch) (fun _ s' => ∃ s req, P s ∧
      req.method = .post ∧ req.uri = uri ∧ World.Relocated h s s' ∧
      s.log.toList ++ [Peer.requestEntry (s.handle h).via req] <+: s'.log.toList) := by
  unfold post
  refine Triple.bind (send_settled hL _) fun r => ?_
  split
  · exact Triple.pure_of fun s' ⟨s, req, hs, hm, hu, _, hq, hlog⟩ =>
      ⟨s, req, hs, hm, hu, hq.relocated, hlog⟩
  · dsimp only
    split
    · rename_i _ _ loc _ _
      refine Triple.bind (Triple.modify fun s₁ _ => ⟨(World.relocated_failedBegin s₁ loc).settles,
        hL' _ _ rfl⟩) fun _ => Triple.pure_of fun s' ⟨s₁, ⟨s, req, hs, hm, hu, _, hq, hlog⟩, hw⟩ => ?_
      refine ⟨s, req, hs, hm, hu,
        hq.relocated.trans ((World.relocated_failedBegin s₁ loc).trans hw.quiet.relocated), ?_⟩
      rw [hw.log]
      exact hlog
    · exact Triple.pure_of fun s' ⟨s, req, hs, hm, hu, _, hq, hlog⟩ =>
        ⟨s, req, hs, hm, hu, hq.relocated, hlog⟩

/-- What is kept by a change of address where there was none is kept by a post. -/
theorem post_keeps {uri : String}
    (hL : ∀ s s' (req : Http.Request), req.method = .post → req.uri = uri →
      s'.log = s.log.push (Peer.requestEntry (s.handle h).via req) → L s s')
    (hL' : ∀ s s', s'.log = s.log → L s s') (hP : Stable (World.Relocated h) P) (batch : Batch) :
    Triple (failureRules h L) P (post h uri batch) (fun _ => P) :=
  (post_settled hL hL' batch).post fun _ _ ⟨_, _, hs, _, _, hr, _⟩ => hP _ _ hs hr

/-- Taking in an accepted answer: the address is taken only by a handle that had none when
the answer was read, and the one failure is a transport failure. -/
theorem absorb_settled (hL' : ∀ s s', s'.log = s.log → L s s') (hP : Stable (World.Relocated h) P)
    (a : Http.Accepted) :
    Triple (failureRules h L) P (absorb h a).run
      (fun r s => P s ∧ ∀ e, r = .error e → e.isStatement = false) := by
  unfold absorb
  refine Triple.run_get_bind (failureRules_lawful h fun s => hL' s s rfl) fun w hw => ?_
  extract_lets hd expiry
  have hexpiry : ∀ u : Unit, Triple (failureRules h L) P (expiry u).run
      (fun r s => P s ∧ ∀ e, r = .error e → e.isStatement = false) := by
    intro u
    dsimp only [expiry]
    split
    · refine Triple.run_liftM ((change_settled hL' (fun s => ?_) (fun s => ?_)
        (fun _ _ hp hq => hP _ _ hp hq.relocated)).post
        fun _ _ hs => ⟨hs, fun _ he => nomatch he⟩)
      · exact World.quiet_modifyHandle s h fun _ => ⟨rfl, rfl⟩
      · rfl
    · exact Triple.run_pure fun _ hs => ⟨hs, fun _ he => nomatch he⟩
  -- from the read on, only the scheduler's bookkeeping has touched the handle
  have hread : ∀ s, P w ∧ World.OnlyWatchers h w s → P s ∧ (s.handle h).location = hd.location :=
    fun s ⟨hp, hs⟩ => ⟨hP _ _ hp hs.quiet.relocated, congrArg (fun l => l.2.1) hs.quiet.life⟩
  split
  · rename_i hnone
    split
    · rename_i loc _
      have hmove : ∀ s : World, (s.handle h).location = hd.location → World.Relocated h s
          (s.modifyHandle h fun hd => { hd with location := some loc }) := by
        intro s hs
        refine World.relocated_modifyHandle s h ⟨rfl, rfl, rfl, fun l hl => ?_⟩
        rw [hs, Option.isNone_iff_eq_none.1 hnone] at hl
        cases hl
      refine Triple.run_liftM_bind ?_ hexpiry
      refine (Triple.modify fun s hs => ?_).post fun _ s' ⟨s, hs, hr⟩ =>
        hP _ _ (hP _ _ (hread s hs).1 (hmove s (hread s hs).2)) hr.quiet.relocated
      exact ⟨(hmove s (hread s hs).2).settles, hL' _ _ rfl⟩
    · exact Triple.run_throw_bind fun s hs => ⟨(hread s hs).1, fun _ he => by cases he; rfl⟩
  · exact (hexpiry ()).pre fun s hs => (hread s hs).1

/-- Ending an open transaction in another state. -/
theorem setState_settled (hL' : ∀ s s', s'.log = s.log → L s s') (hP : Stable (World.Settles h) P)
    {st : TxState} (hst : st ≠ .open) :
    Triple (failureRules h L) (fun s => P s ∧ (s.handle h).state = .open) (setState h st)
      (fun _ => P) := by
  refine (Triple.modify fun s hs => ?_).post fun _ _ ⟨s, hs, hw⟩ =>
    hP _ _ (hP _ _ hs.1 (s.settles_setState hs.2 hst)) hw.quiet.settles
  exact ⟨s.settles_setState hs.2 hst, hL' _ _ rfl⟩

/-- A transaction the server no longer knows ends rolled back, with the expired failure. -/
theorem vanished_settled (hL' : ∀ s s', s'.log = s.log → L s s') (hP : Stable (World.Settles h) P) :
    Triple (failureRules h L) (fun s => P s ∧ (s.handle h).state = .open) (vanished h)
      (fun e s => e = .expired ∧ P s) :=
  Triple.bind (setState_settled hL' hP (by decide)) fun _ => Triple.pure_of fun _ hs => ⟨rfl, hs⟩

end Steps

end Transaction

/-- Handle `h` is an open HTTP handle, with no failure if its server rolls back on one. -/
def Fresh (h : Nat) (s : World) : Prop := IsHttp h s ∧ Clean h s ∧ (s.handle h).state = .open

/-- What statement failure `e` leaves behind on handle `h`: on a server that rolls back on
one, the transaction rolled back with `e`; on an older server, the transaction still open. -/
structure FailureOutcome (h : Nat) (e : TxError) (s : World) : Prop where
  modern : Modern h s → RolledBackBy h e s
  older : Older h s → (s.handle h).state = .open

/-- A verdict that is a statement failure has left its outcome behind. -/
def Reports {α : Type} (h : Nat) (r : Except TxError α) (s : World) : Prop :=
  ∀ e, r = .error e → e.isStatement = true → FailureOutcome h e s

section Outcomes

variable {h : Nat} {e : TxError}

theorem stable_fresh : Stable (World.Quiet h) (Fresh h) := fun _ _ ⟨hh, hc, ho⟩ hq =>
  ⟨stable_isHttp _ _ hh hq.settles, hq.clean hc, hq.state.trans ho⟩

theorem stable_failureOutcome : Stable (World.Quiet h) (FailureOutcome h e) := fun _ _ ho hq =>
  ⟨fun hm => stable_rolledBackBy _ _ (ho.modern ((modern_congr hq.link).1 hm)) hq.settles,
   fun hol => hq.state.trans (ho.older ((older_congr hq.link).1 hol))⟩

/-- A reported failure that is not a statement failure leaves nothing to show. -/
theorem Reports.of_not_statement {α : Type} {x : TxError} (hx : x.isStatement = false) (s : World) :
    Reports (α := α) h (.error x) s := by
  intro e he hst
  cases he
  rw [hx] at hst
  cases hst

theorem Reports.ok {α : Type} (a : α) (s : World) : Reports h (.ok a) s := fun _ he => nomatch he

theorem stable_reports {α : Type} {r : Except TxError α} : Stable (World.Quiet h) (Reports h r) :=
  fun _ _ hr hq e he hs => stable_failureOutcome _ _ (hr e he hs) hq

theorem relocated_fresh : Stable (World.Relocated h) (Fresh h) := fun _ _ ⟨hh, hc, ho⟩ hr =>
  ⟨stable_isHttp _ _ hh hr.settles, hr.settles.clean hc, hr.state.trans ho⟩

/-- Refusing a transaction that is not open is no statement failure. -/
theorem ensureOpen_not_statement {st : TxState} {x : TxError} (he : st.ensureOpen = .error x) :
    x.isStatement = false := by
  cases st <;> cases he <;> rfl

end Outcomes

namespace Transaction

section Entering

variable {h : Nat}

/-- Recording statement failure `e` on an open transaction keeps the link, rolls the
transaction back exactly when its server rolls back on statement failures, and records `e`
where no failure was. The failure is filled in first (`hd₁`), and the transaction then ends. -/
theorem failed_of_open {hd hd₁ : Handle} (ho : hd.state = .open) (e : TxError)
    (h₁ : hd₁ = if hd.failure.isNone then { hd with failure := some e } else hd) :
    let hd' := if ((httpParts hd₁).2.rollsBackOnStatementError && hd₁.state == .open) = true then
        { hd₁ with state := .rolledBack } else hd₁
    hd'.link = hd.link ∧
      hd'.state = (if (httpParts hd).2.rollsBackOnStatementError then .rolledBack else .open) ∧
      (hd.failure = none → hd'.failure = some e) := by
  intro hd'
  have hl₁ : hd₁.link = hd.link := by rw [h₁]; split <;> rfl
  have hs₁ : hd₁.state = .open := by rw [h₁]; split <;> exact ho
  have hf₁ : hd.failure = none → hd₁.failure = some e := by
    intro hf
    rw [h₁, hf]
    rfl
  have hp : httpParts hd₁ = httpParts hd := httpParts_congr hl₁
  refine ⟨?_, ?_, fun hf => ?_⟩ <;>
    cases hrb : (httpParts hd).2.rollsBackOnStatementError <;> simp [hd', hp, hrb, hs₁, hl₁]
  all_goals exact hf₁ hf

/-- Recording a statement failure on an open handle lets its life move on: the failure is
filled in, and the handle ends only where its server rolls back on one. -/
theorem settles_recordFailure (s : World) (hlt : h < s.handles.size)
    (ho : (s.handle h).state = .open) (e : TxError) :
    World.Settles h s (s.modifyHandle h fun hd =>
      let hd := if hd.failure.isNone then { hd with failure := some e } else hd
      if ((httpParts hd).2.rollsBackOnStatementError && hd.state == .open) = true then
        { hd with state := .rolledBack }
      else hd) := by
  obtain ⟨hl, hst, -⟩ := failed_of_open ho e rfl
  refine ⟨World.handle_rel_modifyHandle _ Handle.Evolves.refl s h _
      (Handle.Evolves.of_failed _ rfl _ _) h,
    World.handle_rel_modifyHandle (fun a b => b.link = a.link) (fun _ => rfl) s h _ hl h,
    fun _ hr hopen => ?_, fun a ha => ⟨ha, rfl⟩, List.prefix_refl _⟩
  -- a server that rolls back ends the transaction, so none is left open to be unclean
  rw [World.handle_modifyHandle_self s hlt] at hr hopen
  rw [httpParts_congr hl] at hr
  rw [hst, if_pos hr] at hopen
  cases hopen

/-- Recording a statement failure on an open transaction: a server that rolls back on one
has none recorded yet, so the failure recorded is this one, and the transaction is rolled
back with it; an older server leaves the transaction open. -/
theorem recordFailure_outcome (f : Http.Failure) :
    Triple (failureRules h fun _ _ => True) (Fresh h) (recordFailure h f)
      (fun e s => e.isStatement = true → FailureOutcome h e s) := by
  unfold recordFailure
  dsimp only
  split
  · refine Triple.bind (Triple.modify fun s ⟨hh, _, ho⟩ => ⟨settles_recordFailure s hh.lt_size ho _,
      trivial⟩) fun _ => Triple.pure_of fun s' ⟨s, hs, hw⟩ _ => ?_
    · obtain ⟨hh, hc, ho⟩ := hs
      obtain ⟨hl, hst, hf⟩ := failed_of_open ho f.toError rfl
      have hstate := hw.quiet.state
      have hfailure := hw.quiet.failure
      have hlink := hw.quiet.link
      rw [World.handle_modifyHandle_self s hh.lt_size] at hstate hfailure hlink
      have hparts := httpParts_congr (hlink.trans hl)
      constructor
      · intro hm
        have hr := hm.rollsBack
        rw [hparts] at hr
        exact ⟨hm, hstate.trans (hst.trans (if_pos hr)), hfailure.trans (hf (hc hr ho))⟩
      · intro hold
        have hr := hold.rollsBack
        rw [hparts] at hr
        exact hstate.trans (hst.trans (if_neg (by simp [hr])))
  · rename_i hst
    exact Triple.pure_of fun _ _ hst' => absurd hst' hst

/-- What the code knows after reading an open, clean HTTP handle. -/
theorem fresh_of_read {w s : World} (hw : IsHttp h w ∧ Clean h w) (hs : World.OnlyWatchers h w s)
    (hok : (w.handle h).state.ensureOpen = .ok ()) : Fresh h s :=
  stable_fresh _ _ ⟨hw.1, hw.2, (TxState.ensureOpen_ok_iff _).1 hok⟩ hs.quiet

/-- A transaction found gone reports the expired failure, no statement failure. -/
theorem vanished_reports {α : Type} :
    Triple (failureRules h fun _ _ => True) (Fresh h)
      ((liftM (vanished h) : Tx TxError) >>= fun e => (throw e : Tx α)).run (Reports h) :=
  Triple.run_liftM_bind ((vanished_settled (fun _ _ _ => trivial) (P := fun _ => True)
    (fun _ _ _ _ => trivial)).pre fun _ hs => ⟨trivial, hs.2.2⟩) fun _ =>
    Triple.run_throw fun s ⟨he, _⟩ => he ▸ Reports.of_not_statement rfl s

/-- A failure that is recorded is reported with its outcome. -/
theorem recordFailure_reports {α : Type} (f : Http.Failure) :
    Triple (failureRules h fun _ _ => True) (Fresh h)
      ((liftM (recordFailure h f) : Tx TxError) >>= fun e => (throw e : Tx α)).run (Reports h) :=
  Triple.run_liftM_bind (recordFailure_outcome f) fun _ =>
    Triple.run_throw fun _ hs _ he hst => by
      cases he
      exact hs hst

/-- A run of a batch that reports a statement failure has left its outcome behind. -/
theorem httpExecute_reports (n : Nat) (batch : Batch) :
    Triple (failureRules h fun _ _ => True) (fun s => IsHttp h s ∧ Clean h s)
      (httpExecute h n batch).run (Reports h) := by
  unfold httpExecute
  refine Triple.run_liftM_bind (await_settled (stable_isHttp.and stable_clean) _) fun _ => ?_
  refine Triple.run_andThen (Reports h) ?_ fun r =>
    Triple.bind (endPending_settled (fun _ _ _ => trivial) stable_reports h) fun _ =>
      finishTicket_settled (fun _ _ _ => trivial) stable_reports h n
  refine Triple.run_get_bind (failureRules_lawful h fun _ => trivial) fun w hw => ?_
  dsimp only
  refine Triple.run_ofExcept_bind (fun _ hok => ?_) fun x hx s _ =>
    Reports.of_not_statement (ensureOpen_not_statement hx) s
  refine Triple.run_liftM_bind ((post_keeps (fun _ _ _ _ _ _ => trivial) (fun _ _ _ => trivial)
    relocated_fresh batch).pre fun s hs => fresh_of_read hs.1 hs.2 hok) fun r => ?_
  split
  · exact Triple.run_bind (fun r s => Fresh h s ∧ ∀ e, r = .error e → e.isStatement = false)
      (absorb_settled (fun _ _ _ => trivial) relocated_fresh _)
      (fun _ => Triple.run_pure fun s _ => Reports.ok _ s)
      fun e s hs => Reports.of_not_statement (hs.2 e rfl) s
  · split
    · exact vanished_reports
    · exact Triple.run_throw fun s _ => Reports.of_not_statement rfl s
  · exact recordFailure_reports _

/-- A keep-alive that reports a statement failure has left its outcome behind. -/
theorem httpKeepAlive_reports :
    Triple (failureRules h fun _ _ => True) (fun s => IsHttp h s ∧ Clean h s)
      (httpKeepAlive h).run (Reports h) := by
  unfold httpKeepAlive
  have hP : Stable (World.Settles h) fun s => IsHttp h s ∧ Clean h s := stable_isHttp.and stable_clean
  refine Triple.run_liftM_bind (issue_settled (fun _ _ _ => trivial) hP.quiet h) fun n => ?_
  refine Triple.run_liftM_bind (await_settled hP _) fun _ => ?_
  refine Triple.run_andThen (Reports h) ?_ fun r =>
    finishTicket_settled (fun _ _ _ => trivial) stable_reports h n
  refine Triple.run_get_bind (failureRules_lawful h fun _ => trivial) fun w hw => ?_
  dsimp only
  refine Triple.run_ofExcept_bind (fun _ hok => ?_) fun x hx s _ =>
    Reports.of_not_statement (ensureOpen_not_statement hx) s
  split
  · exact Triple.run_pure fun s _ => Reports.ok _ s
  · refine Triple.run_liftM_bind ((post_keeps (fun _ _ _ _ _ _ => trivial) (fun _ _ _ => trivial)
      relocated_fresh _).pre fun s hs => fresh_of_read hs.1 hs.2 hok) fun r => ?_
    split
    · exact (absorb_settled (fun _ _ _ => trivial) relocated_fresh _).post
        fun _ _ hs e he hst => by
          rw [hs.2 e he] at hst
          cases hst
    · exact vanished_reports
    · exact recordFailure_reports _

theorem executeReserved_reports (n : Nat) (batch : Batch) :
    Triple (failureRules h fun _ _ => True) (fun s => IsHttp h s ∧ Clean h s)
      (executeReserved h n batch).run (Reports h) := by
  unfold executeReserved
  refine Triple.run_get_bind (failureRules_lawful h fun _ => trivial) fun w hw => ?_
  split
  · exact (httpExecute_reports n batch).pre fun s hs =>
      (stable_isHttp.and stable_clean).quiet _ _ hs.1 hs.2.quiet
  · exact (hw.1.not_session ‹_›).elim

/-- A statement run on an HTTP handle that reports a statement failure has left its outcome
behind. -/
theorem execute_reports (batch : Batch) :
    Triple (failureRules h fun _ _ => True) (fun s => IsHttp h s ∧ Clean h s)
      (execute h batch).run (Reports h) := by
  have hP : Stable (World.Quiet h) fun s => IsHttp h s ∧ Clean h s :=
    (stable_isHttp.and stable_clean).quiet
  exact Triple.run_liftM_bind (Triple.bind (beginPending_settled (fun _ _ _ => trivial) hP h)
    fun _ => issue_settled (fun _ _ _ => trivial) hP h) fun n => executeReserved_reports n batch

theorem keepAlive_reports :
    Triple (failureRules h fun _ _ => True) (fun s => IsHttp h s ∧ Clean h s)
      (keepAlive h).run (Reports h) := by
  unfold keepAlive
  refine Triple.run_get_bind (failureRules_lawful h fun _ => trivial) fun w hw => ?_
  dsimp only
  split
  · exact httpKeepAlive_reports.pre fun s hs => (stable_isHttp.and stable_clean).quiet _ _ hs.1 hs.2.quiet
  · exact (hw.1.not_session ‹_›).elim

end Entering

end Transaction

end TxnCoord
