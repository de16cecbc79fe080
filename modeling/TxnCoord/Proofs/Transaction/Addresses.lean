import TxnCoord.Proofs.Transaction.Runs
/-!
# Where an HTTP handle's requests go, and when it may end

A handle learns its address from the answer to its first statement batch, posted to its begin
address. The steps of its operations keep three rules (`Discipline`), each met where the code
sends, takes an address or ends the handle:

* a step sends at most one request of the handle, while it is open, to its address (or the
  address followed by "/commit") once it has one, and to its begin address (or that followed
  by "/commit") while it has none (`Handle.Aims`);
* a step gives the handle an address only while it is open and right after a request to its
  begin address (`World.Begins`);
* a step ends a handle that has an address only right after a request that answers that
  address (`World.Answered`).

`World.Aimed` is the first rule on its own, and `World.Closes` the other two; both meet the
discipline, each with the promise the rest of the program keeps, so one proof per operation
serves both. `World.Closes` keeps the promise `World.KeepsAnswered`: a handle that ended with
an address sent a request that answers it. Nothing here keeps a begin address from being asked
twice: a begin whose answer gave no address (a transport failure, an error status) leaves the
handle as it was, and the next batch posts to the begin address again. A handle closed locally
may therefore have sent a begin; what it never has is an address.
-/

namespace TxnCoord

open Transaction

/-- Where a request of handle `hd` may go: once it has an address, to that address or the
address followed by "/commit"; while it has none, to its begin address or that followed by
"/commit". -/
def Handle.Aims (hd : Handle) (uri : String) : Prop :=
  match hd.location with
  | some loc => uri = loc ∨ uri = loc ++ "/commit"
  | none => uri = beginUri hd ∨ uri = beginUri hd ++ "/commit"

theorem Handle.aims_of_some {hd : Handle} {loc uri : String} (hloc : hd.location = some loc) :
    hd.Aims uri ↔ uri = loc ∨ uri = loc ++ "/commit" := by
  unfold Handle.Aims
  rw [hloc]

theorem Handle.aims_of_none {hd : Handle} {uri : String} (hnone : hd.location = none) :
    hd.Aims uri ↔ uri = beginUri hd ∨ uri = beginUri hd ++ "/commit" := by
  unfold Handle.Aims
  rw [hnone]

/-- The requests after which handle `hd`, with address `loc`, may end: one to that address, one
to the address followed by "/commit", and a commit to the begin address whose answer gave it
the address. -/
def Handle.Answers (hd : Handle) (loc uri : String) : Prop :=
  uri = loc ∨ uri = loc ++ "/commit" ∨ uri = beginUri hd ++ "/commit"

/-- Which requests answer an address of a handle read on a database depends on its link only. -/
theorem Handle.answers_onDatabase {hd hd' : Handle} (hl : hd'.link = hd.link) (db loc uri : String) :
    ({ hd' with database := db } : Handle).Answers loc uri ↔
      ({ hd with database := db } : Handle).Answers loc uri := by
  have hb : beginUri { hd' with database := db } = beginUri { hd with database := db } :=
    beginUri_congr hl rfl
  unfold Handle.Answers
  rw [hb]

namespace World

/-- The last entry of the log is a request of handle `h` to address `uri`. -/
def LastSent (h : Nat) (uri : String) (s : World) : Prop :=
  ∃ req : Http.Request, req.uri = uri ∧ s.log.back? = some (Peer.requestEntry (s.handle h).via req)

/-- If handle `h` has no address, it is open and the last request was its begin. -/
def Begins (h : Nat) (s : World) : Prop :=
  (s.handle h).location = none → (s.handle h).state = .open ∧ ∃ uri, LastSent h uri s ∧
    (uri = beginUri (s.handle h) ∨ uri = beginUri (s.handle h) ++ "/commit")

/-- If handle `h` has an address, the last request answers it. -/
def Answered (h : Nat) (s : World) : Prop :=
  ∀ loc, (s.handle h).location = some loc → ∃ uri, LastSent h uri s ∧ (s.handle h).Answers loc uri

/-- Handle `h` reads as `hd`, but for the tasks waiting on it. -/
def Reads (h : Nat) (hd : Handle) (s : World) : Prop :=
  s.handle h = { hd with watchers := (s.handle h).watchers }

/-- A step of code on handle `h` sends nothing, or one request of the handle, while it is open,
to where its address aims. -/
def Aimed (h : Nat) (s s' : World) : Prop :=
  s'.log = s.log ∨ ∃ req : Http.Request, s'.log = s.log.push (Peer.requestEntry (s.handle h).via req) ∧
    (s.handle h).state = .open ∧ (s.handle h).Aims req.uri

/-- A step of code on handle `h` ends it with an address only right after a request that
answers the address, and gives it an address only while it is open, right after its begin. -/
structure Closes (h : Nat) (s s' : World) : Prop where
  answered : (s.handle h).state = .open → (s'.handle h).state ≠ .open →
    ∀ loc, (s'.handle h).location = some loc → ∃ uri, LastSent h uri s ∧ (s.handle h).Answers loc uri
  located : (s.handle h).location = none → ∀ loc, (s'.handle h).location = some loc →
    (s.handle h).state = .open ∧ ∃ uri, LastSent h uri s ∧
      (uri = beginUri (s.handle h) ∨ uri = beginUri (s.handle h) ++ "/commit")

/-- Handle `h`, if it has ended with an address, sent a request that answers it. The begin
address is read on any database of the handle's server: what moves the world keeps a handle's
link, and says nothing of its database. -/
def EndsAnswered (h : Nat) (s : World) : Prop :=
  (s.handle h).state ≠ .open → ∀ loc, (s.handle h).location = some loc →
    ∃ (req : Http.Request) (db : String), Peer.requestEntry (s.handle h).via req ∈ s.log ∧
      ({ s.handle h with database := db } : Handle).Answers loc req.uri

/-- The promise that a handle that ended answered stays so. -/
def KeepsAnswered (h : Nat) (s s' : World) : Prop := EndsAnswered h s → EndsAnswered h s'

end World

/-- What a promise `R` and a relation `L` on the steps of code on handle `h` must allow, so
that the handle's operations keep to `guardRules h R L`: `R` is a promise that every step `L`
allows keeps, and `L` allows the quiet steps that send nothing, a request aimed as the address
says, an address taken right after a begin, and an ending, or any other change of the handle's
state and failure, that keeps the address and follows a request answering it. -/
structure Discipline (h : Nat) (R L : World → World → Prop) : Prop where
  promise : World.Promise h R
  keeps : ∀ s s', World.Settles h s s' → L s s' → R s s'
  quiet : ∀ s s', World.Quiet h s s' → s'.log = s.log → L s s'
  send : ∀ s s' (req : Http.Request), World.Quiet h s s' → (s.handle h).state = .open →
    (s.handle h).Aims req.uri → s'.log = s.log.push (Peer.requestEntry (s.handle h).via req) → L s s'
  locate : ∀ s s', World.Relocated h s s' → s'.log = s.log → (s.handle h).location = none →
    World.Begins h s → L s s'
  close : ∀ s s', s'.log = s.log → (s'.handle h).location = (s.handle h).location →
    ((s.handle h).state = .open → (s'.handle h).state ≠ .open → World.Answered h s) → L s s'

/-! ## What the code knows between two of its steps -/

namespace World

variable {h : Nat} {hd : Handle} {uri : String} {s s' : World}

theorem reads_of_watchers {w : World} (hw : OnlyWatchers h w s) : Reads h (w.handle h) s := hw.handle

theorem Reads.watchers (hr : Reads h hd s) (hw : OnlyWatchers h s s') : Reads h hd s' := by
  unfold Reads at hr ⊢
  rw [hw.handle, hr]

theorem Reads.of_handles (hr : Reads h hd s) (hh : s'.handles = s.handles) : Reads h hd s' := by
  unfold Reads at hr ⊢
  rw [handle_of_handles hh]
  exact hr

theorem Reads.state (hr : Reads h hd s) : (s.handle h).state = hd.state := by rw [hr]

theorem Reads.location (hr : Reads h hd s) : (s.handle h).location = hd.location := by rw [hr]

theorem Reads.link (hr : Reads h hd s) : (s.handle h).link = hd.link := by rw [hr]

theorem Reads.beginUri (hr : Reads h hd s) : beginUri (s.handle h) = beginUri hd :=
  beginUri_congr hr.link (by rw [hr])

theorem Reads.aims (hr : Reads h hd s) : (s.handle h).Aims uri ↔ hd.Aims uri := by
  unfold Handle.Aims
  rw [hr.location, hr.beginUri]

theorem LastSent.of_same (hl : LastSent h uri s) (hlog : s'.log = s.log)
    (hlink : (s'.handle h).link = (s.handle h).link) : LastSent h uri s' := by
  obtain ⟨req, hu, hb⟩ := hl
  refine ⟨req, hu, ?_⟩
  rw [hlog, Handle.via_congr hlink]
  exact hb

theorem LastSent.watchers (hl : LastSent h uri s) (hw : OnlyWatchers h s s') : LastSent h uri s' :=
  hl.of_same hw.log hw.quiet.link

/-- A step that only may give an address keeps an address that was there, and is then quiet. -/
theorem Relocated.quiet_of_some (hr : Relocated h s s') {loc : String}
    (hloc : (s.handle h).location = some loc) : Quiet h s s' where
  life := by
    unfold Handle.life
    rw [hr.state, hr.location loc hloc, hr.failure, hloc]
  link := hr.link
  adapters := hr.adapters
  log := hr.log

/-- After an older server's failed begin, the handle reads as before, or, if it had no address,
as before with the address the answer names. -/
theorem Reads.failedBegin (hr : Reads h hd s) (hlt : h < s.handles.size) (loc : String) :
    Reads h hd (s.modifyHandle h fun x =>
        if (!(httpParts x).2.rollsBackOnStatementError && x.location.isNone) = true then
          { x with location := some loc } else x) ∨
      hd.location = none ∧ (httpParts hd).2.rollsBackOnStatementError = false ∧
        Reads h { hd with location := some loc } (s.modifyHandle h fun x =>
          if (!(httpParts x).2.rollsBackOnStatementError && x.location.isNone) = true then
            { x with location := some loc } else x) := by
  unfold Reads
  rw [handle_modifyHandle_self s hlt]
  split
  · rename_i hc
    rw [httpParts_congr hr.link, hr.location] at hc
    simp only [Bool.and_eq_true, Bool.not_eq_true', Option.isNone_iff_eq_none] at hc
    refine .inr ⟨hc.2, hc.1, ?_⟩
    rw [hr]
  · exact .inl hr

theorem Begins.watchers (hb : Begins h s) (hw : OnlyWatchers h s s') : Begins h s' := by
  have hr := reads_of_watchers hw
  intro hnone
  obtain ⟨hopen, uri, hl, hu⟩ := hb (hr.location ▸ hnone)
  exact ⟨hr.state.trans hopen, uri, hl.watchers hw, hr.beginUri ▸ hu⟩

theorem Answered.watchers (ha : Answered h s) (hw : OnlyWatchers h s s') : Answered h s' := by
  have hr := reads_of_watchers hw
  intro loc hloc
  obtain ⟨uri, hl, hu⟩ := ha loc (hr.location ▸ hloc)
  refine ⟨uri, hl.watchers hw, ?_⟩
  unfold Handle.Answers at hu ⊢
  rw [hr.beginUri]
  exact hu

/-- A handle without an address has nothing to answer. -/
theorem answered_of_none (hnone : (s.handle h).location = none) : Answered h s := by
  intro loc hloc
  rw [hnone] at hloc
  cases hloc

/-- A handle that reads as one whose address aimed the last request has its address answered. -/
theorem Reads.answered (hr : Reads h hd s) (haim : hd.Aims uri) (hl : LastSent h uri s) :
    Answered h s := by
  intro loc hloc
  refine ⟨uri, hl, ?_⟩
  rcases (Handle.aims_of_some (hr.location.symm.trans hloc)).1 haim with hu | hu
  · exact .inl hu
  · exact .inr (.inl hu)

/-- A handle with no address, open, that reads as one whose begin address the last request
went to, begins. -/
theorem Reads.begins (hr : Reads h hd s) (hopen : hd.state = .open) (hnone : hd.location = none)
    (haim : hd.Aims uri) (hl : LastSent h uri s) : Begins h s := by
  intro _
  exact ⟨hr.state.trans hopen, uri, hl, hr.beginUri ▸ (Handle.aims_of_none hnone).1 haim⟩

/-- After a post of handle `h`, which read as `hd` before it: the handle reads as before, or,
after an older server's failed begin, as before with the address the answer names. -/
def AfterPost (h : Nat) (hd : Handle) (s : World) : Prop :=
  Reads h hd s ∨ hd.location = none ∧ (httpParts hd).2.rollsBackOnStatementError = false ∧
    ∃ loc, Reads h { hd with location := some loc } s

theorem AfterPost.watchers (ha : AfterPost h hd s) (hw : OnlyWatchers h s s') : AfterPost h hd s' := by
  rcases ha with hr | ⟨hnone, hold, loc, hr⟩
  · exact .inl (hr.watchers hw)
  · exact .inr ⟨hnone, hold, loc, hr.watchers hw⟩

theorem AfterPost.state (ha : AfterPost h hd s) (hopen : hd.state = .open) :
    (s.handle h).state = .open := by
  rcases ha with hr | ⟨-, -, loc, hr⟩
  · exact hr.state.trans hopen
  · exact hr.state.trans hopen

/-- A handle without an address after a post to its begin address begins. -/
theorem AfterPost.begins (ha : AfterPost h hd s) (hopen : hd.state = .open) (haim : hd.Aims uri)
    (hl : LastSent h uri s) : Begins h s := by
  rcases ha with hr | ⟨-, -, loc, hr⟩
  · cases hnone : hd.location with
    | none => exact hr.begins hopen hnone haim hl
    | some l =>
      intro hs
      rw [hr.location, hnone] at hs
      cases hs
  · intro hs
    rw [hr.location] at hs
    cases hs

/-- After a post, the address is answered, unless an older server's failed begin gave it. -/
theorem AfterPost.answered (ha : AfterPost h hd s) (haim : hd.Aims uri) (hl : LastSent h uri s) :
    Answered h s ∨ hd.location = none ∧ (httpParts (s.handle h)).2.rollsBackOnStatementError = false := by
  rcases ha with hr | ⟨hnone, hold, loc, hr⟩
  · exact .inl (hr.answered haim hl)
  · refine .inr ⟨hnone, ?_⟩
    rw [httpParts_congr hr.link]
    exact hold

/-- After a commit's post, the address is answered: one given by a failed begin is answered by
the commit to the begin address that drew it. -/
theorem AfterPost.answered_commit (ha : AfterPost h hd s) (haim : hd.Aims uri)
    (hl : LastSent h uri s) (hcommit : hd.location = none → uri = beginUri hd ++ "/commit") :
    Answered h s := by
  rcases ha with hr | ⟨hnone, -, loc, hr⟩
  · exact hr.answered haim hl
  · intro loc' _
    refine ⟨uri, hl, .inr (.inr ?_)⟩
    rw [hr.beginUri]
    exact hcommit hnone

/-- A request of the handle stays in the log while the log grows and the link stays. -/
theorem requestEntry_mem_of_prefix {req : Http.Request}
    (hin : Peer.requestEntry (s.handle h).via req ∈ s.log)
    (hlink : (s'.handle h).link = (s.handle h).link) (hlog : s.log.toList <+: s'.log.toList) :
    Peer.requestEntry (s'.handle h).via req ∈ s'.log := by
  rw [Handle.via_congr hlink, ← Array.mem_toList_iff]
  exact hlog.subset (Array.mem_toList_iff.2 hin)

theorem EndsAnswered.of_quiet (he : EndsAnswered h s) (hq : Quiet h s s') : EndsAnswered h s' := by
  intro hend loc hloc
  obtain ⟨req, db, hin, ha⟩ := he (fun hopen => hend (hq.state.trans hopen)) loc
    (hq.location.symm.trans hloc)
  exact ⟨req, db, requestEntry_mem_of_prefix hin hq.link hq.log,
    (Handle.answers_onDatabase hq.link db loc req.uri).2 ha⟩

/-- A quiet step neither ends the handle nor gives it an address. -/
theorem Closes.of_quiet (hq : Quiet h s s') : Closes h s s' where
  answered hopen hend := absurd (hq.state.trans hopen) hend
  located hnone loc hloc := by
    rw [hq.location, hnone] at hloc
    cases hloc

/-- A step that the world's moves allow and that closes as `Closes` says keeps a handle that
had ended answered so, and leaves one that it ends answered. -/
theorem Closes.keepsAnswered (hs : Settles h s s') (hc : Closes h s s') : KeepsAnswered h s s' := by
  intro he hend loc hloc
  by_cases hopen : (s.handle h).state = .open
  · -- the step ends the handle, right after a request that answers its address
    obtain ⟨uri, ⟨req, hu, hb⟩, ha⟩ := hc.answered hopen hend loc hloc
    refine ⟨req, (s.handle h).database,
      requestEntry_mem_of_prefix (Array.mem_of_back? hb) hs.link hs.log, ?_⟩
    rw [Handle.answers_onDatabase hs.link, hu]
    exact ha
  · -- an ended handle keeps its state and its address, answered before the step
    cases hl : (s.handle h).location with
    | none => exact absurd (hc.located hl loc hloc).1 hopen
    | some l =>
      have hl' : l = loc := Option.some.inj ((hs.life.location l hl).symm.trans hloc)
      subst hl'
      obtain ⟨req, db, hin, ha⟩ := he hopen l hl
      exact ⟨req, db, requestEntry_mem_of_prefix hin hs.link hs.log,
        (Handle.answers_onDatabase hs.link db l req.uri).2 ha⟩

end World

/-! ## The disciplines -/

theorem World.promise_true (h : Nat) : World.Promise h fun _ _ => True :=
  ⟨fun _ _ _ => trivial, fun _ _ _ _ _ => trivial⟩

theorem World.keepsAnswered_promise (h : Nat) : World.Promise h (World.KeepsAnswered h) where
  quiet _ _ hq he := he.of_quiet hq
  trans _ _ _ h₁ h₂ he := h₂ (h₁ he)

section Disciplines

variable (h : Nat)

theorem World.aimed_discipline : Discipline h (fun _ _ => True) (World.Aimed h) where
  promise := World.promise_true h
  keeps _ _ _ _ := trivial
  quiet _ _ _ hlog := .inl hlog
  send _ _ req _ hopen haim hlog := .inr ⟨req, hlog, hopen, haim⟩
  locate _ _ _ hlog _ _ := .inl hlog
  close _ _ hlog _ _ := .inl hlog

theorem World.closes_discipline : Discipline h (World.KeepsAnswered h) (World.Closes h) where
  promise := World.keepsAnswered_promise h
  keeps _ _ hs hc := hc.keepsAnswered hs
  quiet _ _ hq _ := .of_quiet hq
  send _ _ _ hq _ _ _ := .of_quiet hq
  locate s s' hr _ _ hb := ⟨fun hopen hend => absurd (hr.state.trans hopen) hend,
    fun hnone _ _ => hb hnone⟩
  close _ _ _ hloc ha := ⟨fun hopen hend loc hl => ha hopen hend loc (hloc ▸ hl),
    fun hnone loc hl => by rw [hloc, hnone] at hl; cases hl⟩

end Disciplines

namespace Discipline

variable {h : Nat} {R L : World → World → Prop}

/-- A step that the world's moves allow and that `L` allows keeps the rules. -/
theorem guar (hL : Discipline h R L) {s s' : World} (hs : World.Settles h s s') (hl : L s s') :
    (guardRules h R L).guar s s' :=
  ⟨⟨hs, hL.keeps _ _ hs hl⟩, hl⟩

theorem lawful (hL : Discipline h R L) : (guardRules h R L).Lawful :=
  guarded_lawful hL.promise hL.quiet

end Discipline

/-- Recording a statement failure keeps the address. -/
theorem location_of_failed {hd hd₁ : Handle} (e : TxError)
    (h₁ : hd₁ = if hd.failure.isNone then { hd with failure := some e } else hd) (c : Bool)
    (st : TxState) :
    (if (c && hd₁.state == .open) = true then { hd₁ with state := st } else hd₁).location =
      hd.location := by
  subst h₁
  split <;> split <;> rfl

/-- Being an HTTP handle survives a step that settles the world and the bookkeeping after it. -/
theorem IsHttp.after_step {h : Nat} {s s₁ s₂ : World} (hh : IsHttp h s) (hs : World.Settles h s s₁)
    (hw : World.OnlyWatchers h s₁ s₂) : IsHttp h s₂ :=
  stable_isHttp _ _ (stable_isHttp _ _ hh hs) hw.quiet.settles

/-! ## The steps that send, take an address or end the handle -/

/-- Giving a handle without an address one only moves its address. -/
theorem World.relocated_locate (s : World) {h : Nat} (hnone : (s.handle h).location = none)
    (loc : String) : World.Relocated h s (s.modifyHandle h fun x => { x with location := some loc }) :=
  World.relocated_modifyHandle s h ⟨rfl, rfl, rfl, fun l hl => by rw [hnone] at hl; cases hl⟩

namespace Transaction

/-- Taking in an accepted answer, under rules that allow a quiet step keeping the log and, where
`P` holds, giving a handle without an address the one the answer names. -/
theorem absorb_guarded {h : Nat} {R L : World → World → Prop} {P : World → Prop}
    (hR : World.Promise h R) (hLq : ∀ s s', World.Quiet h s s' → s'.log = s.log → L s s')
    (hP : ∀ s s', P s → World.OnlyWatchers h s s' → P s')
    (hlocate : ∀ s, P s → (s.handle h).location = none → ∀ loc,
      (guardRules h R L).guar s (s.modifyHandle h fun x => { x with location := some loc }))
    (a : Http.Accepted) :
    Triple (guardRules h R L) (fun s => IsHttp h s ∧ P s) (absorb h a).run (fun _ => IsHttp h) := by
  have hq : Stable (World.Quiet h) (IsHttp h) := stable_isHttp.quiet
  unfold absorb
  refine Triple.run_get_bind (guarded_lawful hR hLq) fun w hw => ?_
  extract_lets hd expiry
  have hexpiry : ∀ u : Unit, Triple (guardRules h R L) (IsHttp h) (expiry u).run
      (fun _ => IsHttp h) := by
    intro u
    dsimp only [expiry]
    split
    · exact Triple.run_liftM (change_guarded hR hLq
        (fun s => World.quiet_modifyHandle s h fun _ => ⟨rfl, rfl⟩) (fun _ => rfl) hq)
    · exact Triple.run_pure fun _ hs => hs
  split
  · rename_i hnone
    split
    · rename_i loc _
      refine Triple.run_liftM_bind ?_ hexpiry
      refine (Triple.modify fun s hs => ?_).post fun _ s' ⟨s, hs, hr⟩ => ?_
      all_goals
        have hnow : (s.handle h).location = none :=
          (World.reads_of_watchers hs.2).location.trans (Option.isNone_iff_eq_none.1 hnone)
      · exact hlocate s (hP _ _ hs.1.2 hs.2) hnow loc
      · exact (hq _ _ hs.1.1 hs.2.quiet).after_step (s.relocated_locate hnow loc).settles hr
    · exact Triple.run_throw_bind fun s hs => hq _ _ hs.1.1 hs.2.quiet
  · exact (hexpiry ()).pre fun s hs => hq _ _ hs.1.1 hs.2.quiet

section Steps

variable {h : Nat} {R L : World → World → Prop} (hL : Discipline h R L)
include hL

theorem send_disciplined {hd : Handle} (hopen : hd.state = .open) {uri : String} (haim : hd.Aims uri)
    (method : Http.Method) (body : Option Json) :
    Triple (guardRules h R L) (fun s => IsHttp h s ∧ World.Reads h hd s)
      (send h method uri body)
      (fun _ s => IsHttp h s ∧ World.Reads h hd s ∧ World.LastSent h uri s) := by
  unfold send
  refine (Triple.modifyGet fun s hs => ?_).post fun _ s' ⟨s, hs, _, hw⟩ => ?_
  · exact hL.guar (World.quiet_sent s _ _ _).settles (hL.send _ _ _ (World.quiet_sent s _ _ _)
      (hs.2.state.trans hopen) (hs.2.aims.2 haim) rfl)
  · refine ⟨hs.1.after_step (World.quiet_sent s _ _ _).settles hw, World.Reads.watchers (hs.2.of_handles (by rfl)) hw,
      { method, uri, body, credentials := (httpParts (s.handle h)).1.credentials,
        userAgent := (httpParts (s.handle h)).1.userAgent,
        stream := (httpParts (s.handle h)).1.useJsonStream }, rfl, ?_⟩
    rw [hw.log, Handle.via_congr (hw.quiet.link.trans (World.quiet_sent s _ _ _).link)]
    simp [World.modifyPeer, World.note]

/-- A post sends one request to `uri`. Afterwards the handle reads as before, or, after an
older server's failed begin, as before with the address the answer names. -/
theorem post_disciplined {hd : Handle} (hopen : hd.state = .open) {uri : String} (haim : hd.Aims uri)
    (batch : Batch) :
    Triple (guardRules h R L) (fun s => IsHttp h s ∧ World.Reads h hd s)
      (post h uri batch)
      (fun _ s => IsHttp h s ∧ World.LastSent h uri s ∧ World.AfterPost h hd s) := by
  unfold post
  refine Triple.bind (send_disciplined hL hopen haim _ _) fun r => ?_
  split
  · exact Triple.pure_of fun _ hs => ⟨hs.1, hs.2.2, .inl hs.2.1⟩
  dsimp only
  split
  · rename_i _ _ loc _ _
    refine Triple.bind (Triple.modify fun s hs => hL.guar (World.relocated_failedBegin s loc).settles
      ?_) fun _ => Triple.pure_of fun s' ⟨s, hs, hw⟩ => ?_
    · -- an address is taken only where there was none, right after the begin
      cases hnone : hd.location with
      | none =>
        exact hL.locate _ _ (World.relocated_failedBegin s loc) rfl (hs.2.1.location.trans hnone)
          (hs.2.1.begins hopen hnone haim hs.2.2)
      | some l =>
        exact hL.quiet _ _ ((World.relocated_failedBegin s loc).quiet_of_some
          (hs.2.1.location.trans hnone)) rfl
    · have hmove := World.relocated_failedBegin (h := h) s loc
      refine ⟨hs.1.after_step hmove.settles hw,
        (hs.2.2.of_same (by rfl) hmove.link).watchers hw, ?_⟩
      rcases hs.2.1.failedBegin hs.1.lt_size loc with hr | ⟨hnone, hold, hr⟩
      · exact .inl (hr.watchers hw)
      · exact .inr ⟨hnone, hold, loc, hr.watchers hw⟩
  · exact Triple.pure_of fun _ hs => ⟨hs.1, hs.2.2, .inl hs.2.1⟩

/-- Taking in an accepted answer gives an address only to a handle that had none, right after
its begin. -/
theorem absorb_disciplined (a : Http.Accepted) :
    Triple (guardRules h R L) (fun s => IsHttp h s ∧ World.Begins h s)
      (absorb h a).run (fun _ => IsHttp h) :=
  absorb_guarded hL.promise hL.quiet (fun _ _ hb hw => hb.watchers hw)
    (fun s hb hnone loc => hL.guar (s.relocated_locate hnone loc).settles
      (hL.locate _ _ (s.relocated_locate hnone loc) rfl hnone hb)) a

/-- Ending an open handle, whose address, if it has one, the last request answers. -/
theorem setState_disciplined {st : TxState} (hst : st ≠ .open) :
    Triple (guardRules h R L)
      (fun s => IsHttp h s ∧ (s.handle h).state = .open ∧ World.Answered h s) (setState h st)
      (fun _ => IsHttp h) := by
  unfold setState
  refine Triple.post (Triple.modify fun s hs => hL.guar (s.settles_setState hs.2.1 hst)
    (hL.close _ _ rfl ?_ fun _ _ => hs.2.2)) fun _ _ ⟨s, hs, hw⟩ =>
      hs.1.after_step (s.settles_setState hs.2.1 hst) hw
  rw [World.handle_modifyHandle_self s hs.1.lt_size]

theorem vanished_disciplined :
    Triple (guardRules h R L)
      (fun s => IsHttp h s ∧ (s.handle h).state = .open ∧ World.Answered h s) (vanished h)
      (fun _ => IsHttp h) :=
  Triple.bind (setState_disciplined hL (by decide)) fun _ => Triple.pure_of fun _ hs => hs

/-- Recording a failure: a statement failure is filled in and, on a server that rolls back on
one, ends the handle, whose address the last request then answers. -/
theorem recordFailure_disciplined (f : Http.Failure) :
    Triple (guardRules h R L) (fun s => IsHttp h s ∧ (s.handle h).state = .open ∧
        ((httpParts (s.handle h)).2.rollsBackOnStatementError = true → World.Answered h s))
      (recordFailure h f) (fun _ => IsHttp h) := by
  unfold recordFailure
  dsimp only
  split
  · refine Triple.bind (Triple.modify fun s hs => hL.guar
      (settles_recordFailure s hs.1.lt_size hs.2.1 _)
      (hL.close _ _ rfl ?_ fun _ hend => hs.2.2 ?_)) fun _ =>
        Triple.pure_of fun s' ⟨s, hs, hw⟩ =>
          hs.1.after_step (settles_recordFailure s hs.1.lt_size hs.2.1 _) hw
    · rw [World.handle_modifyHandle_self s hs.1.lt_size]
      exact location_of_failed f.toError rfl _ _
    · -- only a server that rolls back on a statement failure ends the handle
      rw [World.handle_modifyHandle_self s hs.1.lt_size, (failed_of_open hs.2.1 f.toError rfl).2.1]
        at hend
      cases hrb : (httpParts (s.handle h)).2.rollsBackOnStatementError
      · rw [hrb] at hend
        exact absurd rfl hend
      · rfl
  · exact Triple.pure_of fun _ hs => hs.1

end Steps

/-! ## The operations -/

section Operations

variable {h : Nat} {R L : World → World → Prop} (hL : Discipline h R L)
include hL

theorem httpExecute_disciplined (n : Nat) (batch : Batch) :
    Triple (guardRules h R L) (IsHttp h) (httpExecute h n batch).run
      (fun _ => IsHttp h) := by
  have hq : Stable (World.Quiet h) (IsHttp h) := stable_isHttp.quiet
  unfold httpExecute
  refine Triple.run_liftM_bind (await_guarded stable_isHttp_guarded _)
    fun _ => ?_
  refine Triple.run_andThen (fun _ => IsHttp h) ?_ fun _ =>
    Triple.bind (endPending_guarded hL.promise hL.quiet hq h) fun _ =>
      finishTicket_guarded hL.promise hL.quiet hq h n
  refine Triple.run_get_bind (hL.lawful) fun w hw => ?_
  dsimp only
  refine Triple.run_ofExcept_bind (fun _ hok => ?_) fun _ _ s hs => hq _ _ hs.1 hs.2.quiet
  have hopen : (w.handle h).state = .open := (TxState.ensureOpen_ok_iff _).1 hok
  -- the batch goes to the address, or to the begin address while there is none
  have haim : (w.handle h).Aims ((w.handle h).location.getD (beginUri (w.handle h))) := by
    unfold Handle.Aims
    cases (w.handle h).location <;> exact .inl rfl
  refine Triple.run_liftM_bind ((post_disciplined hL hopen haim batch).pre fun s hs =>
    ⟨hq _ _ hs.1 hs.2.quiet, World.reads_of_watchers hs.2⟩) fun r => ?_
  split
  · exact Triple.run_bind (fun _ => IsHttp h) ((absorb_disciplined hL _).pre fun _ hs =>
      ⟨hs.1, hs.2.2.begins hopen haim hs.2.1⟩) (fun _ => Triple.run_pure fun _ hs => hs)
      fun _ _ hs => hs
  · split
    · -- a begun transaction the server no longer knows ends, right after the request to it
      rename_i hbegun
      refine Triple.run_liftM_bind ((vanished_disciplined hL).pre fun _ hs =>
        ⟨hs.1, hs.2.2.state hopen, (hs.2.2.answered haim hs.2.1).resolve_right fun hx => ?_⟩)
        fun _ => Triple.run_throw fun _ hs => hs
      rw [hx.1] at hbegun
      cases hbegun
    · exact Triple.run_throw fun _ hs => hs.1
  · exact Triple.run_liftM_bind ((recordFailure_disciplined hL _).pre fun _ hs =>
      ⟨hs.1, hs.2.2.state hopen, fun hrb => (hs.2.2.answered haim hs.2.1).resolve_right
        fun hx => by rw [hrb] at hx; cases hx.2⟩) fun _ => Triple.run_throw fun _ hs => hs

/-- A block run in its turn keeps the rules as the block does: taking the ticket, waiting for
it and finishing it touch only the handle's bookkeeping. -/
theorem inTurn_disciplined {α : Type} {body : Tx α}
    (hb : Triple (guardRules h R L) (IsHttp h) body.run (fun _ => IsHttp h)) :
    Triple (guardRules h R L) (IsHttp h)
      (do
        let n ← (liftM (Step.issue h) : Tx Nat)
        liftM (Step.waitTurn h n)
        Tx.andThen body (Step.finishTicket h n)).run
      (fun _ => IsHttp h) := by
  have hq : Stable (World.Quiet h) (IsHttp h) := stable_isHttp.quiet
  refine Triple.run_liftM_bind (issue_guarded hL.promise hL.quiet hq h) fun n => ?_
  refine Triple.run_liftM_bind (await_guarded stable_isHttp_guarded _)
    fun _ => ?_
  exact Triple.run_andThen (fun _ => IsHttp h) hb fun _ =>
    finishTicket_guarded hL.promise hL.quiet hq h n

theorem httpKeepAlive_disciplined :
    Triple (guardRules h R L) (IsHttp h) (httpKeepAlive h).run
      (fun _ => IsHttp h) := by
  have hq : Stable (World.Quiet h) (IsHttp h) := stable_isHttp.quiet
  unfold httpKeepAlive
  refine inTurn_disciplined hL ?_
  refine Triple.run_get_bind hL.lawful fun w hw => ?_
  dsimp only
  refine Triple.run_ofExcept_bind (fun _ hok => ?_) fun _ _ s hs => hq _ _ hs.1 hs.2.quiet
  have hopen : (w.handle h).state = .open := (TxState.ensureOpen_ok_iff _).1 hok
  split
  · exact Triple.run_pure fun s hs => hq _ _ hs.1 hs.2.quiet
  rename_i loc hloc
  -- a begun handle is kept alive at its address, which the post then answers
  have haim : (w.handle h).Aims loc := (Handle.aims_of_some hloc).2 (.inl rfl)
  have hanswered : ∀ s, World.AfterPost h (w.handle h) s → World.LastSent h loc s →
      World.Answered h s := fun s ha hl =>
    (ha.answered haim hl).resolve_right fun hx => by
      rw [hloc] at hx
      cases hx.1
  refine Triple.run_liftM_bind ((post_disciplined hL hopen haim {}).pre fun s hs =>
    ⟨hq _ _ hs.1 hs.2.quiet, World.reads_of_watchers hs.2⟩) fun r => ?_
  split
  · exact (absorb_disciplined hL _).pre fun _ hs => ⟨hs.1, hs.2.2.begins hopen haim hs.2.1⟩
  · exact Triple.run_liftM_bind ((vanished_disciplined hL).pre fun s hs =>
      ⟨hs.1, hs.2.2.state hopen, hanswered s hs.2.2 hs.2.1⟩) fun _ => Triple.run_throw fun _ hs => hs
  · exact Triple.run_liftM_bind ((recordFailure_disciplined hL _).pre fun s hs =>
      ⟨hs.1, hs.2.2.state hopen, fun _ => hanswered s hs.2.2 hs.2.1⟩) fun _ =>
        Triple.run_throw fun _ hs => hs

theorem httpRollback_disciplined :
    Triple (guardRules h R L) (IsHttp h) (httpRollback h).run
      (fun _ => IsHttp h) := by
  have hq : Stable (World.Quiet h) (IsHttp h) := stable_isHttp.quiet
  unfold httpRollback
  refine inTurn_disciplined hL ?_
  refine Triple.run_get_bind hL.lawful fun w hw => ?_
  dsimp only
  split
  · exact Triple.run_pure fun s hs => hq _ _ hs.1 hs.2.quiet
  refine Triple.run_ofExcept_bind (fun _ hok => ?_) fun _ _ s hs => hq _ _ hs.1 hs.2.quiet
  have hopen : (w.handle h).state = .open := (TxState.ensureOpen_ok_iff _).1 hok
  split
  · rename_i hnone
    exact Triple.run_liftM ((setState_disciplined hL (by decide)).pre fun s hs =>
      ⟨hq _ _ hs.1 hs.2.quiet, hs.2.open_of_ok hok,
        World.answered_of_none ((World.reads_of_watchers hs.2).location.trans hnone)⟩)
  rename_i loc hloc
  -- the DELETE goes to the address, and the handle ends right after it
  have haim : (w.handle h).Aims loc := (Handle.aims_of_some hloc).2 (.inl rfl)
  refine Triple.run_liftM_bind ((send_disciplined hL hopen haim .delete none).pre fun s hs =>
    ⟨hq _ _ hs.1 hs.2.quiet, World.reads_of_watchers hs.2⟩) fun r => ?_
  refine Triple.run_liftM_bind ((setState_disciplined hL (by decide)).pre fun s hs =>
    ⟨hs.1, hs.2.1.state.trans hopen, hs.2.1.answered haim hs.2.2⟩) fun _ => ?_
  split
  · exact Triple.run_pure fun _ hs => hs
  · exact Triple.run_pure fun _ hs => hs
  · exact Triple.run_throw fun _ hs => hs

theorem httpCommit_disciplined (batch : Batch) :
    Triple (guardRules h R L) (IsHttp h) (httpCommit h batch).run
      (fun _ => IsHttp h) := by
  have hq : Stable (World.Quiet h) (IsHttp h) := stable_isHttp.quiet
  have hρ := hL.lawful
  unfold httpCommit
  extract_lets committing afterPending
  refine Triple.run_get_bind hρ fun w₀ hw₀ => ?_
  dsimp only
  split
  · exact Triple.run_throw_bind fun s hs => hq _ _ hs.1 hs.2.quiet
  refine (inTurn_disciplined hL ?_).pre fun s hs => hq _ _ hs.1 hs.2.quiet
  refine Triple.run_get_bind hρ fun w hw => ?_
  dsimp only
  split
  · exact Triple.run_throw_bind fun s hs => hq _ _ hs.1 hs.2.quiet
  refine Triple.run_ofExcept_bind (fun _ hok => ?_) fun _ _ s hs => hq _ _ hs.1 hs.2.quiet
  have hopen : (w.handle h).state = .open := (TxState.ensureOpen_ok_iff _).1 hok
  -- the commit post ends the handle; any address it had, or the answer gave, the post answers
  have hcommitting : ∀ uri, (w.handle h).Aims uri →
      ((w.handle h).location = none → uri = beginUri (w.handle h) ++ "/commit") →
      Triple (guardRules h R L)
        (fun s => IsHttp h w ∧ (guardRules h R L).sched w s) (committing uri).run
        (fun _ => IsHttp h) := by
    intro uri haim hcommit
    refine Triple.run_liftM_bind ((post_disciplined hL hopen haim batch).pre fun s hs =>
      ⟨hq _ _ hs.1 hs.2.quiet, World.reads_of_watchers hs.2⟩) fun r => ?_
    have hend : ∀ s, IsHttp h s ∧ World.LastSent h uri s ∧ World.AfterPost h (w.handle h) s →
        IsHttp h s ∧ (s.handle h).state = .open ∧ World.Answered h s := fun s hs =>
      ⟨hs.1, hs.2.2.state hopen, hs.2.2.answered_commit haim hs.2.1 hcommit⟩
    split
    · exact Triple.run_liftM_bind ((setState_disciplined hL (by decide)).pre hend) fun _ =>
        Triple.run_pure fun _ hs => hs
    · exact Triple.run_liftM_bind ((vanished_disciplined hL).pre hend) fun _ =>
        Triple.run_throw fun _ hs => hs
    · exact Triple.run_throw fun _ hs => hs.1
    · exact Triple.run_liftM_bind ((setState_disciplined hL (by decide)).pre hend) fun _ =>
        Triple.run_throw fun _ hs => hs
  split
  · rename_i loc hloc
    exact Triple.run_pure_bind (hcommitting _ ((Handle.aims_of_some hloc).2 (.inr rfl)) fun hx => by
      rw [hloc] at hx
      cases hx)
  rename_i hnone
  split
  · -- an empty commit of a handle without an address only marks it committed
    exact Triple.run_liftM_bind ((setState_disciplined hL (by decide)).pre fun s hs =>
      ⟨hq _ _ hs.1 hs.2.quiet, hs.2.open_of_ok hok,
        World.answered_of_none ((World.reads_of_watchers hs.2).location.trans hnone)⟩) fun _ =>
      Triple.run_pure fun _ hs => hs
  exact Triple.run_pure_bind (hcommitting _ ((Handle.aims_of_none hnone).2 (.inr rfl)) fun _ => rfl)

theorem executeReserved_disciplined (n : Nat) (batch : Batch) :
    Triple (guardRules h R L) (IsHttp h) (executeReserved h n batch).run (fun _ => IsHttp h) := by
  unfold executeReserved
  refine Triple.run_get_bind hL.lawful fun w hw => ?_
  split
  · exact (httpExecute_disciplined hL n batch).pre fun s hs =>
      stable_isHttp.quiet _ _ hs.1 hs.2.quiet
  · exact (hw.not_session ‹_›).elim

theorem reserve_disciplined :
    Triple (guardRules h R L) (IsHttp h) (reserve h) (fun _ => IsHttp h) := by
  have hq : Stable (World.Quiet h) (IsHttp h) := stable_isHttp.quiet
  unfold reserve
  exact Triple.bind (beginPending_guarded hL.promise hL.quiet hq h) fun _ =>
    issue_guarded hL.promise hL.quiet hq h

theorem execute_disciplined (batch : Batch) :
    Triple (guardRules h R L) (IsHttp h) (execute h batch).run (fun _ => IsHttp h) := by
  unfold execute
  exact Triple.run_liftM_bind (reserve_disciplined hL) fun n => executeReserved_disciplined hL n batch

theorem commitWith_disciplined (batch : Batch) :
    Triple (guardRules h R L) (IsHttp h) (commitWith h batch).run (fun _ => IsHttp h) := by
  unfold commitWith
  refine Triple.run_get_bind hL.lawful fun w hw => ?_
  split
  · exact (httpCommit_disciplined hL batch).pre fun s hs => stable_isHttp.quiet _ _ hs.1 hs.2.quiet
  · exact (hw.not_session ‹_›).elim

theorem commit_disciplined :
    Triple (guardRules h R L) (IsHttp h) (commit h).run (fun _ => IsHttp h) :=
  Triple.run_bind (fun _ => IsHttp h) (commitWith_disciplined hL {})
    (fun _ => Triple.run_pure fun _ hs => hs) fun _ _ hs => hs

theorem rollback_disciplined :
    Triple (guardRules h R L) (IsHttp h) (rollback h).run (fun _ => IsHttp h) := by
  unfold rollback
  refine Triple.run_get_bind hL.lawful fun w hw => ?_
  split
  · exact (httpRollback_disciplined hL).pre fun s hs => stable_isHttp.quiet _ _ hs.1 hs.2.quiet
  · exact (hw.not_session ‹_›).elim

theorem keepAlive_disciplined :
    Triple (guardRules h R L) (IsHttp h) (keepAlive h).run (fun _ => IsHttp h) := by
  unfold keepAlive
  refine Triple.run_get_bind hL.lawful fun w hw => ?_
  dsimp only
  split
  · exact (httpKeepAlive_disciplined hL).pre fun s hs => stable_isHttp.quiet _ _ hs.1 hs.2.quiet
  · exact (hw.not_session ‹_›).elim

theorem keepAliveFrom_disciplined (start period fuel k : Nat) :
    Triple (guardRules h R L) (IsHttp h) (keepAliveFrom h start period fuel k)
      (fun _ => IsHttp h) := by
  have hq : Stable (World.Quiet h) (IsHttp h) := stable_isHttp.quiet
  -- one tick per unit of fuel, each keeping the handle alive at most once
  induction fuel generalizing k with
  | zero => exact Triple.pure_of fun _ hs => hs
  | succ fuel ih =>
    unfold keepAliveFrom
    refine Triple.bind (await_guarded stable_isHttp_guarded _) fun _ => ?_
    refine Triple.bind (Triple.get hL.lawful) fun w => Triple.of_fact fun hw => ?_
    dsimp only
    split
    · exact Triple.pure_of fun s hs => hq _ _ hw hs.quiet
    split
    · exact (ih (k + 1)).pre fun s hs => hq _ _ hw hs.quiet
    refine Triple.bind ((keepAlive_disciplined hL).pre fun s hs => hq _ _ hw hs.quiet) fun r => ?_
    split
    · split
      · exact Triple.pure_of fun _ hs => hs
      · exact ih (k + 1)
    · exact ih (k + 1)

theorem keepAliveTask_disciplined (period : Nat) :
    Triple (guardRules h R L) (IsHttp h) (keepAliveTask h period) (fun _ => IsHttp h) := by
  unfold keepAliveTask
  refine Triple.bind (read_guarded hL.promise hL.quiet stable_isHttp.quiet) fun w => ?_
  exact Triple.bind (await_guarded stable_isHttp_guarded _) fun _ =>
    keepAliveFrom_disciplined hL _ _ _ _

/-- Closing locally ends the handle rolled back, with no request, exactly when it is open and
has no address; otherwise it changes nothing. -/
theorem abandonLocally_disciplined (hd : Handle) (l : Array Json) :
    Triple (guardRules h R L) (fun s => IsHttp h s ∧ World.Reads h hd s ∧ s.log = l)
      (abandonLocally h)
      (fun b s => (b = true ↔ hd.state = .open ∧ hd.location = none) ∧ IsHttp h s ∧ s.log = l ∧
        World.Reads h (if b then { hd with state := .rolledBack } else hd) s) := by
  unfold abandonLocally
  refine (Triple.modifyGet fun s hs => ?_).post fun b s' ⟨s, hs, hb, hw⟩ => ?_
  · dsimp only
    split
    · split
      · rename_i hc
        simp only [Bool.and_eq_true, Option.isNone_iff_eq_none, beq_iff_eq] at hc
        refine hL.guar (s.settles_setState hc.2 (by decide)) (hL.close _ _ rfl ?_ fun _ _ =>
          World.answered_of_none hc.1)
        rw [World.handle_modifyHandle_self s hs.1.lt_size]
      · exact hL.lawful.guar_refl s
    · exact hL.lawful.guar_refl s
  obtain ⟨hh, hr, hl⟩ := hs
  have hlt : h < s.handles.size := hh.lt_size
  obtain ⟨m, c, v, hlink⟩ := hh
  have hiff : ((s.handle h).location.isNone && (s.handle h).state == .open) = true ↔
      hd.state = .open ∧ hd.location = none := by
    rw [hr.location, hr.state]
    simp only [Bool.and_eq_true, Option.isNone_iff_eq_none, beq_iff_eq]
    exact and_comm
  dsimp only at hb hw
  rw [hlink] at hb hw
  dsimp only at hb hw
  by_cases hc : ((s.handle h).location.isNone && (s.handle h).state == .open) = true
  · rw [if_pos hc] at hb hw
    subst hb
    have hopen : (s.handle h).state = .open := hr.state.trans (hiff.1 hc).1
    have hend : World.Reads h { hd with state := .rolledBack }
        (s.modifyHandle h fun x => { x with state := .rolledBack }) := by
      unfold World.Reads
      rw [World.handle_modifyHandle_self s hlt, hr]
    exact ⟨iff_of_true rfl (hiff.1 hc),
      IsHttp.after_step ⟨m, c, v, hlink⟩ (s.settles_setState hopen (by decide)) hw, hw.log.trans hl,
      hend.watchers hw⟩
  · rw [if_neg hc] at hb hw
    subst hb
    exact ⟨iff_of_false Bool.false_ne_true (mt hiff.2 hc),
      stable_isHttp _ _ ⟨m, c, v, hlink⟩ hw.quiet.settles, hw.log.trans hl, hr.watchers hw⟩

end Operations

end Transaction

namespace Manager

section Scopes

variable {h : Nat} {R L : World → World → Prop} (hL : Discipline h R L)
include hL

/-- Ending a scope of the handle closes it locally, or rolls it back. -/
theorem finishScope_disciplined (ctx r : Nat) :
    Triple (guardRules h R L) (fun s => IsHttp h s ∧ (s.record r).handle = some h)
      (finishScope ctx r).run (fun _ => IsHttp h) := by
  have hq : Stable (World.Quiet h) (IsHttp h) := stable_isHttp.quiet
  unfold finishScope
  refine Triple.run_liftM_bind (retire_guarded hL.promise hL.quiet hq ctx r) fun b => ?_
  split
  · exact Triple.run_pure fun s hs => hs.1
  refine Triple.run_get_bind hL.lawful fun w hw => ?_
  dsimp only
  split
  · rename_i h' hh'
    rw [hw.2] at hh'
    cases hh'
    refine Triple.run_get_bind hL.lawful fun w' hw' => ?_
    have hb : IsHttp h w' := hq _ _ hw'.1.1 hw'.2.quiet
    split
    · refine Triple.run_liftM_bind ((Transaction.abandonLocally_disciplined hL (w'.handle h)
        w'.log).pre fun s hs => ⟨hq _ _ hb hs.2.quiet, World.reads_of_watchers hs.2, hs.2.log⟩)
        fun b => ?_
      split
      · exact Triple.run_pure fun s hs => hs.2.1
      · exact (Transaction.rollback_disciplined hL).pre fun s hs => hs.2.1
    · exact Triple.run_pure fun s hs => hq _ _ hb hs.2.quiet
  · exact Triple.run_pure fun s hs => hq _ _ hw.1 hs.2.quiet

/-- Dropping a scope of the handle closes it locally, or leaves its rollback to a task of its
own, which keeps to the same rules. -/
theorem dropScope_disciplined (ctx r : Nat) :
    Triple (guardRules h R L) (fun s => IsHttp h s ∧ (s.record r).handle = some h)
      (dropScope ctx r) (fun _ => IsHttp h) := by
  have hq : Stable (World.Quiet h) (IsHttp h) := stable_isHttp.quiet
  have hroll : Triple (guardRules h R L) (IsHttp h) (do let _ ← (Transaction.rollback h).run)
      (fun _ => IsHttp h) :=
    Triple.bind (Transaction.rollback_disciplined hL) fun _ => Triple.pure_of fun _ hs => hs
  unfold dropScope
  refine Triple.bind (retire_guarded hL.promise hL.quiet hq ctx r) fun b => ?_
  split
  · exact Triple.pure_of fun s hs => hs.1
  refine Triple.bind (Triple.get hL.lawful) fun w => Triple.of_fact fun hw => ?_
  dsimp only
  split
  · rename_i h' hh'
    rw [hw.2] at hh'
    cases hh'
    refine Triple.bind (Triple.get hL.lawful) fun w' => Triple.of_fact fun hw' => ?_
    have hb : IsHttp h w' := hq _ _ hw.1 hw'.quiet
    split
    · exact Triple.pure_of fun s hs => hq _ _ hb hs.quiet
    refine Triple.bind ((Transaction.abandonLocally_disciplined hL (w'.handle h) w'.log).pre
      fun s hs => ⟨hq _ _ hb hs.quiet, World.reads_of_watchers hs, hs.log⟩) fun b => ?_
    split
    · exact Triple.pure_of fun s hs => hs.2.1
    · have hsched : Stable (guardRules h R L).sched (IsHttp h) := fun _ _ hs hw => hq _ _ hs hw.quiet
      refine Triple.bind (Triple.spawn ((hroll _ fun _ => .done).mono fun s hs =>
        After.of_stable stable_isHttp_guarded (After.mono (fun _ hs' => hs'.2.1) hs))) fun _ =>
          Triple.pure_of fun s hs => After.of_stable hsched (After.mono (fun _ hs' => hs'.2.1) hs)
  · exact Triple.pure_of fun s hs => hq _ _ hw.1 hs.quiet

end Scopes

end Manager

end TxnCoord
