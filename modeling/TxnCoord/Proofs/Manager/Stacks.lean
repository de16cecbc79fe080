import TxnCoord.Proofs.Manager.Footprint
import TxnCoord.Proofs.Fiber.Schedule
/-!
# Scope stacks hold the live scopes pushed to them

A scope record is pushed to one stack when its scope begins, and ended once. Which stack a
record went to is kept outside the world, as a map `home` from records to stacks (none for a
record pushed nowhere yet). The stacks are right (`World.Stacked`) when every stack holds
exactly the records pushed to it and not yet ended, in the order they were pushed. Records
are numbered in the order they are made, so push order is the order of their numbers, and no
stack holds a record twice.

* Beginning a scope makes its record and pushes it on its stack, as the last one; ending it,
  by `finishScope`, `dropScope` or `endTransaction`, marks it ended and takes it off the stack
  it was pushed to, wherever it sits on it. An ended scope ends again without any change.
* Everything else the coordinator does leaves records and stacks alone
  (`KeepsFrame World.Move`).

`World.ScopesFollow` says how the scopes may change over a run: records are only added or
ended, and whatever stacks were right stay right, no record leaving the stack it was pushed
to. Every step of the operations above keeps to it, so every run of tasks built from them
does (`scopeRules`).

    Stacked home s → (s.context ctx).records = s.liveIn home ctx
    currentOf s ctx = ((s.liveIn home ctx).getLast?).bind (fun r => (s.record r).handle)
-/

namespace TxnCoord

namespace World

/-- The records pushed to stack `ctx` and not yet ended, in the order they were pushed;
`home` names the stack each record was pushed to. -/
def liveIn (w : World) (home : Nat → Option Nat) (ctx : Nat) : List Nat :=
  (List.range w.records.size).filter fun r => home r == some ctx && !(w.record r).ended

/-- Every stack holds exactly the records pushed to it and not yet ended, in push order. -/
def Stacked (w : World) (home : Nat → Option Nat) : Prop :=
  ∀ ctx, (w.context ctx).records = w.liveIn home ctx

/-- The stacks are right for some record of where each record went. -/
def Stacks (w : World) : Prop := ∃ home, w.Stacked home

theorem mem_liveIn {w : World} {home : Nat → Option Nat} {ctx r : Nat} :
    r ∈ w.liveIn home ctx ↔ r < w.records.size ∧ home r = some ctx ∧ (w.record r).ended = false := by
  simp [liveIn]

theorem nodup_liveIn (w : World) (home : Nat → Option Nat) (ctx : Nat) :
    (w.liveIn home ctx).Nodup :=
  List.nodup_range.filter _

theorem context_modifyContext (w : World) (i j : Nat) (f : Context → Context) :
    (w.modifyContext i f).context j =
      if i = j ∧ j < w.contexts.size then f (w.context j) else w.context j := by
  simp only [World.context, World.modifyContext, Array.getElem?_modify]
  by_cases hij : i = j
  · subst hij
    by_cases hs : i < w.contexts.size
    · simp [hs]
    · simp [hs]
  · simp [hij]

theorem record_modifyRecord (w : World) (i j : Nat) (f : ScopeRecord → ScopeRecord) :
    (w.modifyRecord i f).record j =
      if i = j ∧ j < w.records.size then f (w.record j) else w.record j := by
  simp only [World.record, World.modifyRecord, Array.getElem?_modify]
  by_cases hij : i = j
  · subst hij
    by_cases hs : i < w.records.size
    · simp [hs]
    · simp [hs]
  · simp [hij]

@[simp] theorem records_modifyContext (w : World) (i : Nat) (f : Context → Context) :
    (w.modifyContext i f).records = w.records := rfl

@[simp] theorem size_contexts_modifyContext (w : World) (i : Nat) (f : Context → Context) :
    (w.modifyContext i f).contexts.size = w.contexts.size := by
  simp [World.modifyContext]

@[simp] theorem context_modifyRecord (w : World) (i j : Nat) (f : ScopeRecord → ScopeRecord) :
    (w.modifyRecord i f).context j = w.context j := rfl

@[simp] theorem size_records_modifyRecord (w : World) (i : Nat) (f : ScopeRecord → ScopeRecord) :
    (w.modifyRecord i f).records.size = w.records.size :=
  Array.size_modify

/-- Which records are live where depends on the records alone. -/
theorem liveIn_of_records {w w' : World} (h : w'.records = w.records) (home : Nat → Option Nat)
    (ctx : Nat) : w'.liveIn home ctx = w.liveIn home ctx := by
  simp only [liveIn, World.record, h]

/-- Ending a record takes it out of every list of live records. -/
theorem liveIn_end (w : World) (home : Nat → Option Nat) (r ctx : Nat) :
    (w.modifyRecord r fun x => { x with ended := true }).liveIn home ctx =
      (w.liveIn home ctx).filter (· != r) := by
  simp only [liveIn, size_records_modifyRecord, List.filter_filter]
  refine List.filter_congr fun i hi => ?_
  rw [record_modifyRecord]
  by_cases hir : r = i
  · subst hir
    simp [List.mem_range.1 hi]
  · have hne : (i != r) = true := bne_iff_ne.2 (Ne.symm hir)
    simp [hir, hne]

/-- The records live on a stack, read off the newest record and those before it. -/
theorem liveIn_last (w : World) (home : Nat → Option Nat) {r : Nat}
    (hr : r + 1 = w.records.size) (ctx : Nat) :
    w.liveIn home ctx = (List.range r).filter (fun i => home i == some ctx && !(w.record i).ended) ++
      (if home r = some ctx ∧ (w.record r).ended = false then [r] else []) := by
  rw [liveIn, ← hr, List.range_succ, List.filter_append]
  congr 1
  by_cases hc : home r = some ctx ∧ (w.record r).ended = false
  · simp [hc]
  · rw [if_neg hc]
    simp only [List.filter_cons, List.filter_nil]
    split
    · rename_i hp
      simp only [Bool.and_eq_true, beq_iff_eq, Bool.not_eq_true'] at hp
      exact absurd hp hc
    · rfl

theorem filter_ne_of_not_mem {l : List Nat} {r : Nat} (h : r ∉ l) : l.filter (· != r) = l :=
  List.filter_eq_self.2 fun _ ha => bne_iff_ne.2 fun hra => h (hra ▸ ha)

/-- Taking the last occurrence of a record off a list without repeats takes every occurrence. -/
theorem removeLast_eq_filter {l : List Nat} (hl : l.Nodup) (r : Nat) :
    Manager.removeLast r l = l.filter (· != r) := by
  rw [Manager.removeLast, List.Nodup.erase_eq_filter (List.pairwise_reverse.2 (hl.imp Ne.symm)),
    List.filter_reverse, List.reverse_reverse]

/-- A record lives on at most one stack, the one it was pushed to. -/
theorem Stacked.home_eq {w : World} {home : Nat → Option Nat} (hs : w.Stacked home) {ctx r : Nat}
    (hr : r ∈ (w.context ctx).records) : home r = some ctx := by
  rw [hs ctx] at hr
  exact (mem_liveIn.1 hr).2.1

/-- A live record that no stack holds was pushed nowhere. -/
theorem Stacked.home_none {w : World} {home : Nat → Option Nat} (hs : w.Stacked home) {r : Nat}
    (hr : r < w.records.size) (hl : (w.record r).ended = false)
    (hn : ∀ c, r ∉ (w.context c).records) : home r = none := by
  cases hh : home r with
  | none => rfl
  | some c =>
    have : r ∈ w.liveIn home c := mem_liveIn.2 ⟨hr, hh, hl⟩
    rw [← hs c] at this
    exact absurd this (hn c)

/-- Steps that leave records and stacks alone keep the stacks right, each record staying
with the stack it was pushed to. -/
theorem Stacked.of_same {w w' : World} {home : Nat → Option Nat} (hs : w.Stacked home)
    (h : SameScopes w w') : w'.Stacked home := fun ctx => by
  rw [h.context ctx, hs ctx, liveIn_of_records h.records]

/-! ## How scopes may change -/

/-- How the scopes may change over a run: records are only added, each changes in whether it
ended only, and only from live to ended; and stacks that held the live records pushed to them
still do, every record staying on the stack it was pushed to. -/
structure ScopesFollow (s s' : World) : Prop where
  size : s.records.size ≤ s'.records.size
  record : ∀ r, r < s.records.size → s'.record r = { s.record r with ended := (s'.record r).ended }
  ended : ∀ r, (s.record r).ended = true → (s'.record r).ended = true
  stacked : ∀ home, s.Stacked home → ∃ home', (∀ r, r < s.records.size → home r ≠ none →
    home' r = home r) ∧ s'.Stacked home'

namespace ScopesFollow

theorem refl (s : World) : ScopesFollow s s where
  size := Nat.le_refl _
  record _ _ := rfl
  ended _ h := h
  stacked home h := ⟨home, fun _ _ _ => rfl, h⟩

theorem trans {a b c : World} (h₁ : ScopesFollow a b) (h₂ : ScopesFollow b c) :
    ScopesFollow a c where
  size := Nat.le_trans h₁.size h₂.size
  record r hr := by
    rw [h₂.record r (Nat.lt_of_lt_of_le hr h₁.size), h₁.record r hr]
  ended r h := h₂.ended r (h₁.ended r h)
  stacked home h := by
    obtain ⟨home₁, hext₁, hb⟩ := h₁.stacked home h
    obtain ⟨home₂, hext₂, hc⟩ := h₂.stacked home₁ hb
    refine ⟨home₂, fun r hr hn => ?_, hc⟩
    rw [hext₂ r (Nat.lt_of_lt_of_le hr h₁.size) (by rw [hext₁ r hr hn]; exact hn), hext₁ r hr hn]

/-- A step that leaves every record and every stack alone. -/
theorem of_sameScopes {s s' : World} (h : SameScopes s s') : ScopesFollow s s' where
  size := Nat.le_of_eq (by rw [h.records])
  record r _ := by simp only [World.record, h.records]
  ended r hr := by simpa only [World.record, h.records] using hr
  stacked home hs := ⟨home, fun _ _ _ => rfl, hs.of_same h⟩

end ScopesFollow

/-- Ending a live record on the stack it was pushed to. -/
theorem scopesFollow_retire (s : World) {ctx r : Nat} (hr : r ∈ (s.context ctx).records) :
    ScopesFollow s ((s.modifyRecord r fun x => { x with ended := true }).modifyContext ctx
      fun c => { c with records := Manager.removeLast r c.records }) where
  size := Nat.le_of_eq (size_records_modifyRecord s r _).symm
  record i _ := by
    rw [record_modifyContext, record_modifyRecord]
    split <;> rfl
  ended i hi := by
    rw [record_modifyContext, record_modifyRecord]
    split
    · rfl
    · exact hi
  stacked home hs := by
    refine ⟨home, fun _ _ _ => rfl, fun c => ?_⟩
    have hhome : home r = some ctx := hs.home_eq hr
    rw [liveIn_of_records (records_modifyContext _ ctx _), liveIn_end, context_modifyContext,
      context_modifyRecord]
    split
    · rename_i hc
      obtain ⟨rfl, -⟩ := hc
      rw [hs ctx, removeLast_eq_filter (nodup_liveIn s home ctx)]
    · rename_i hc
      have hnot : r ∉ s.liveIn home c := fun hm => by
        have hrc : home r = some c := (mem_liveIn.1 hm).2.1
        rw [hhome] at hrc
        obtain rfl := Option.some.inj hrc
        -- the stack it sits on exists: a number out of range names the empty stack
        rcases Nat.lt_or_ge ctx s.contexts.size with hlt | hge
        · exact hc ⟨rfl, hlt⟩
        · have hempty : (s.context ctx).records = [] := by
            simp only [World.context, Array.getElem?_eq_none hge, Option.getD_none]
            rfl
          rw [hempty] at hr
          exact absurd hr List.not_mem_nil
      rw [hs c, filter_ne_of_not_mem hnot]

/-- Making a new record, which no stack holds yet. -/
theorem scopesFollow_make (s : World) (x : ScopeRecord) (n : Nat) :
    ScopesFollow s { s with records := s.records.push x, nextSerial := n } where
  size := by simp
  record i hi := by
    simp only [World.record, Array.getElem?_push, Nat.ne_of_lt hi, if_false]
  ended i hi := by
    simp only [World.record, Array.getElem?_push] at hi ⊢
    split
    · rename_i h
      subst h
      simp at hi
    · exact hi
  stacked home hs := by
    refine ⟨fun i => if i = s.records.size then none else home i, fun i hi _ => by
      simp [Nat.ne_of_lt hi], fun c => ?_⟩
    have hsize : s.records.size + 1 = ({ s with records := s.records.push x, nextSerial := n } : World).records.size := by
      simp
    rw [liveIn_last _ _ hsize, if_neg (by simp), List.append_nil]
    show (s.context c).records = _
    rw [hs c, liveIn]
    refine List.filter_congr fun i hi => ?_
    have hlt := List.mem_range.1 hi
    simp only [World.record, Array.getElem?_push, Nat.ne_of_lt hlt, if_false]

/-- Pushing the newest record, live and on no stack yet, to a stack. -/
theorem scopesFollow_pushTo (s : World) {ctx r : Nat} (hr : r + 1 = s.records.size)
    (hl : (s.record r).ended = false) (hn : ∀ c, r ∉ (s.context c).records) :
    ScopesFollow s (s.modifyContext ctx fun c => { c with records := c.records ++ [r] }) := by
  refine { (ScopesFollow.refl s) with stacked := fun home hs => ?_ }
  have hnone : home r = none := hs.home_none (by omega) hl hn
  let place : Option Nat := if ctx < s.contexts.size then some ctx else none
  refine ⟨fun i => if i = r then place else home i, fun i _ hi => ?_, fun c => ?_⟩
  · have hir : i ≠ r := fun h => hi (h ▸ hnone)
    simp [hir]
  · rw [liveIn_of_records (records_modifyContext _ ctx _), liveIn_last _ _ hr, context_modifyContext]
    have hbelow : (List.range r).filter (fun i => (if i = r then place else home i) == some c &&
        !(s.record i).ended) = (List.range r).filter (fun i => home i == some c && !(s.record i).ended) :=
      List.filter_congr fun i hi => by
        simp [Nat.ne_of_lt (List.mem_range.1 hi)]
    have hold : (s.context c).records = (List.range r).filter
        (fun i => home i == some c && !(s.record i).ended) := by
      rw [hs c, liveIn_last _ _ hr, hnone]
      simp
    rw [hbelow]
    split
    · rename_i hc
      obtain ⟨rfl, hlt⟩ := hc
      simp [hold, place, hlt, hl]
    · rename_i hc
      have hplace : place ≠ some c := by
        simp only [place]
        split
        · rename_i hlt
          exact fun h => hc ⟨Option.some.inj h, Option.some.inj h ▸ hlt⟩
        · exact fun h => nomatch h
      simp [hold, hplace]

theorem Stacks.of_follow {s s' : World} (hs : s.Stacks) (hf : ScopesFollow s s') : s'.Stacks := by
  obtain ⟨home, hh⟩ := hs
  obtain ⟨home', -, hh'⟩ := hf.stacked home hh
  exact ⟨home', hh'⟩

/-- Every record a stack holds exists. -/
theorem Stacks.lt_size {w : World} (hs : w.Stacks) {ctx r : Nat} (hr : r ∈ (w.context ctx).records) :
    r < w.records.size := by
  obtain ⟨home, hh⟩ := hs
  rw [hh ctx] at hr
  exact (mem_liveIn.1 hr).1

/-- An ended record is on no stack. -/
theorem Stacks.not_mem_of_ended {w : World} (hs : w.Stacks) {ctx r : Nat}
    (he : (w.record r).ended = true) : r ∉ (w.context ctx).records := by
  obtain ⟨home, hh⟩ := hs
  rw [hh ctx]
  intro hm
  rw [(mem_liveIn.1 hm).2.2] at he
  exact absurd he (by decide)

end World

/-! ## The rules of scope code -/

namespace World

/-- The scheduler's own steps leave every record and every stack as they are, and make no
stack. -/
structure SameStacks (s s' : World) : Prop where
  records : s'.records = s.records
  contexts : s'.contexts = s.contexts

namespace SameStacks

theorem refl (s : World) : SameStacks s s := ⟨rfl, rfl⟩

theorem trans {a b c : World} (h₁ : SameStacks a b) (h₂ : SameStacks b c) : SameStacks a c :=
  ⟨h₂.records.trans h₁.records, h₂.contexts.trans h₁.contexts⟩

theorem sameScopes {s s' : World} (h : SameStacks s s') : SameScopes s s' :=
  ⟨h.records, fun _ => by simp only [World.context, h.contexts]⟩

end SameStacks

theorem Stacks.of_sched {s s' : World} (hs : s.Stacks) (h : SameStacks s s') : s'.Stacks :=
  hs.of_follow (ScopesFollow.of_sameScopes h.sameScopes)

/-- A stack holds its records oldest first, in the order they were pushed, each once. -/
theorem Stacks.pushOrder {w : World} (hs : w.Stacks) (ctx : Nat) :
    (w.context ctx).records.Pairwise (· < ·) := by
  obtain ⟨home, hh⟩ := hs
  rw [hh ctx]
  exact List.pairwise_lt_range.filter _

/-- Two lists picked in order out of the numbers below two bounds are equal once they have the
same members. -/
theorem filter_range_ext {n n' : Nat} {p p' : Nat → Bool} (hle : n ≤ n')
    (h : ∀ i, i ∈ (List.range n).filter p ↔ i ∈ (List.range n').filter p') :
    (List.range n).filter p = (List.range n').filter p' := by
  obtain ⟨d, rfl⟩ := Nat.exists_eq_add_of_le hle
  rw [List.range_add, List.filter_append]
  -- nothing picked at or above the lower bound
  have htail : ((List.range d).map (n + ·)).filter p' = [] := by
    refine List.filter_eq_nil_iff.2 fun i hi hp => ?_
    obtain ⟨j, hj, rfl⟩ := List.mem_map.1 hi
    have hmem : n + j ∈ (List.range (n + d)).filter p' :=
      List.mem_filter.2 ⟨List.mem_range.2 (by have := List.mem_range.1 hj; omega), hp⟩
    have hlt := List.mem_range.1 (List.mem_filter.1 ((h _).2 hmem)).1
    omega
  rw [htail, List.append_nil]
  refine List.filter_congr fun i hi => Bool.eq_iff_iff.2 ?_
  have hlt := List.mem_range.1 hi
  have hi' := h i
  simp only [List.mem_filter, List.mem_range] at hi'
  exact ⟨fun hp => (hi'.1 ⟨hlt, hp⟩).2, fun hp => (hi'.2 ⟨by omega, hp⟩).2⟩

/-- Over a run in which no scope of stack `ctx` ends and every scope pushed to it since has
ended, the stack comes back to what it was. -/
theorem stack_restored {s₀ s₁ : World} (hs : s₀.Stacks) (hf : ScopesFollow s₀ s₁) {ctx : Nat}
    (hlive : ∀ r ∈ (s₀.context ctx).records, (s₁.record r).ended = false)
    (hnew : ∀ r ∈ (s₁.context ctx).records, r ∈ (s₀.context ctx).records) :
    (s₁.context ctx).records = (s₀.context ctx).records := by
  obtain ⟨home₀, h₀⟩ := hs
  obtain ⟨home₁, hext, h₁⟩ := hf.stacked home₀ h₀
  rw [h₁ ctx, h₀ ctx]
  refine (filter_range_ext hf.size fun r => ⟨fun hr => ?_, fun hr => ?_⟩).symm
  · -- a scope of the old stack is still live, and still with the stack it was pushed to
    have hr₀ : r ∈ s₀.liveIn home₀ ctx := hr
    obtain ⟨hlt, hhome, -⟩ := mem_liveIn.1 hr₀
    have hl : (s₁.record r).ended = false := hlive r (by rw [h₀ ctx]; exact hr₀)
    refine mem_liveIn.2 ⟨Nat.lt_of_lt_of_le hlt hf.size, ?_, hl⟩
    rw [hext r hlt (by rw [hhome]; exact fun h => nomatch h), hhome]
  · have hr₁ : r ∈ (s₁.context ctx).records := by rw [h₁ ctx]; exact hr
    have hr₀ := hnew r hr₁
    rw [h₀ ctx] at hr₀
    exact hr₀

/-- The same run gives the stack back its current transaction. -/
theorem currentOf_restored {s₀ s₁ : World} (hs : s₀.Stacks) (hf : ScopesFollow s₀ s₁) {ctx : Nat}
    (hlive : ∀ r ∈ (s₀.context ctx).records, (s₁.record r).ended = false)
    (hnew : ∀ r ∈ (s₁.context ctx).records, r ∈ (s₀.context ctx).records) :
    Manager.currentOf s₁ ctx = Manager.currentOf s₀ ctx := by
  unfold Manager.currentOf Manager.topOf
  rw [stack_restored hs hf hlive hnew]
  cases htop : (s₀.context ctx).records.getLast? with
  | none => rfl
  | some r =>
    -- the top record existed before the run, and only its end can have changed
    have hr : r < s₀.records.size := hs.lt_size (List.mem_of_getLast? htop)
    simp only [Option.bind_some]
    rw [hf.record r hr]

/-- Record `r` is the newest, live, and on no stack yet: the record of a scope that is
beginning. -/
def Fresh (r : Nat) (s : World) : Prop :=
  s.Stacks ∧ r + 1 = s.records.size ∧ (s.record r).ended = false ∧ ∀ c, r ∉ (s.context c).records

theorem fresh_make {s : World} (hs : s.Stacks) (x : ScopeRecord) (hx : x.ended = false) (n : Nat) :
    Fresh s.records.size { s with records := s.records.push x, nextSerial := n } := by
  refine ⟨hs.of_follow (scopesFollow_make s x n), by simp, ?_, fun c hm => ?_⟩
  · simpa [World.record] using hx
  · -- the stacks are those of `s`, whose records all come before the new one
    have hold : s.records.size ∈ (s.context c).records := hm
    exact Nat.lt_irrefl _ (hs.lt_size hold)

theorem Fresh.of_sched {r : Nat} {s s' : World} (h : Fresh r s) (h' : SameStacks s s') :
    Fresh r s' := by
  obtain ⟨hs, hr, hl, hn⟩ := h
  refine ⟨hs.of_sched h', h'.records ▸ hr, ?_, fun c => ?_⟩
  · simpa only [World.record, h'.records] using hl
  · rw [h'.sameScopes.context c]
    exact hn c

end World

open World (ScopesFollow SameScopes SameStacks)

/-- Every step, and whatever other tasks do while a fiber waits, lets the scopes change only
as `World.ScopesFollow` allows; the scheduler's bookkeeping leaves records and stacks alone. -/
def scopeRules : Rules World Cond := ⟨ScopesFollow, SameStacks, ScopesFollow, fun _ _ => True⟩

theorem scopeRules_lawful : scopeRules.Lawful where
  rely_refl := ScopesFollow.refl
  rely_trans _ _ _ := ScopesFollow.trans
  sched_refl := SameStacks.refl
  sched_trans _ _ _ := SameStacks.trans
  guar_refl := ScopesFollow.refl
  sched_rely _ _ h := ScopesFollow.of_sameScopes h.sameScopes
  guar_rely _ _ h := h

/-- The scheduler's bookkeeping touches no scope, and giving back what an owner held touches
none either. -/
theorem World.host_keeps_scopeRules : World.host.Keeps scopeRules where
  listen c t s := by
    cases c with
    | turn h n => exact ⟨rfl, rfl⟩
    | granted m o => exact ⟨rfl, rfl⟩
  forget t s := ⟨rfl, rfl⟩
  release o s := ScopesFollow.of_sameScopes (World.Move.releaseOwner s o).sameScopes
  takeWakes s := ⟨rfl, rfl⟩
  fresh s := ⟨rfl, rfl⟩
  enter t o n s := ⟨rfl, rfl⟩
  spawned p c s := by
    simp only [World.host]
    split <;> exact ⟨rfl, rfl⟩
  holds _ _ _ := trivial

/-- Code that touches no scope keeps what the scope rules keep. -/
theorem KeepsFrame.scopes {α : Type} {x : Step α} (h : KeepsFrame World.Move x) {P : World → Prop}
    (hP : Stable ScopesFollow P) : Triple scopeRules P x (fun _ => P) :=
  h.triple scopeRules_lawful (fun _ _ hm => ScopesFollow.of_sameScopes hm.sameScopes) hP

/-- Rules under which a fiber's own steps change nothing at all, while other tasks keep to
the scope rules. -/
def quietRules : Rules World Cond := ⟨ScopesFollow, SameStacks, Eq, fun _ _ => True⟩

theorem quietRules_lawful : quietRules.Lawful where
  rely_refl := ScopesFollow.refl
  rely_trans _ _ _ := ScopesFollow.trans
  sched_refl := SameStacks.refl
  sched_trans _ _ _ := SameStacks.trans
  guar_refl _ := rfl
  sched_rely _ _ h := ScopesFollow.of_sameScopes h.sameScopes
  guar_rely s _ h := h ▸ ScopesFollow.refl s

theorem stable_stacks : Stable ScopesFollow World.Stacks := fun _ _ hs hf => hs.of_follow hf

/-- Scope `r` belongs with stack `ctx`: it has ended, or that stack holds it. -/
def Paired (ctx r : Nat) (s : World) : Prop := (s.record r).ended = true ∨ r ∈ (s.context ctx).records

/-- Ended scope `r` is on no stack. -/
def Ended (r : Nat) (s : World) : Prop := s.Stacks ∧ (s.record r).ended = true

theorem stable_paired (ctx r : Nat) : Stable ScopesFollow fun s => s.Stacks ∧ Paired ctx r s := by
  rintro s s' ⟨hs, hp⟩ hf
  refine ⟨hs.of_follow hf, ?_⟩
  rcases hp with he | hm
  · exact .inl (hf.ended r he)
  · -- a live record stays on the stack it was pushed to until it ends
    obtain ⟨home, hh⟩ := hs
    obtain ⟨home', hext, hh'⟩ := hf.stacked home hh
    have hr : r < s.records.size := World.Stacks.lt_size ⟨home, hh⟩ hm
    have hhome : home' r = some ctx := by
      rw [hext r hr (by rw [hh.home_eq hm]; exact fun h => nomatch h), hh.home_eq hm]
    cases he : (s'.record r).ended with
    | true => exact .inl he
    | false =>
      refine .inr ?_
      rw [hh' ctx]
      exact World.mem_liveIn.2 ⟨Nat.lt_of_lt_of_le hr hf.size, hhome, he⟩

theorem stable_ended (r : Nat) : Stable ScopesFollow (Ended r) :=
  fun _ _ ⟨hs, he⟩ hf => ⟨hs.of_follow hf, hf.ended r he⟩


/-! ## Ending and beginning scopes -/

namespace Manager

open Transaction

/-- Ending a scope that belongs with its stack leaves it ended and the stacks right. -/
theorem retire_stacks (ctx r : Nat) :
    Triple scopeRules (fun s => s.Stacks ∧ Paired ctx r s) (retire ctx r) (fun _ => Ended r) := by
  have hstep : ∀ s : World, s.Stacks ∧ Paired ctx r s →
      ScopesFollow s (if (s.record r).ended then (false, s) else (true,
        (s.modifyRecord r fun x => { x with ended := true }).modifyContext ctx
          fun c => { c with records := removeLast r c.records })).2 ∧
      Ended r (if (s.record r).ended then (false, s) else (true,
        (s.modifyRecord r fun x => { x with ended := true }).modifyContext ctx
          fun c => { c with records := removeLast r c.records })).2 := by
    rintro s ⟨hs, hp⟩
    split
    · rename_i he
      exact ⟨ScopesFollow.refl s, hs, he⟩
    · rename_i hl
      have hm : r ∈ (s.context ctx).records := hp.resolve_left hl
      have hf := World.scopesFollow_retire s hm
      refine ⟨hf, hs.of_follow hf, ?_⟩
      rw [World.record_modifyContext, World.record_modifyRecord, if_pos ⟨rfl, hs.lt_size hm⟩]
  refine (Triple.modifyGet fun s hs => (hstep s hs).1).post ?_
  rintro _ s' ⟨s, hs, -, hsched⟩
  exact stable_ended r _ _ (hstep s hs).2 (ScopesFollow.of_sameScopes hsched.sameScopes)

theorem finishScope_stacks (ctx r : Nat) :
    Triple scopeRules (fun s => s.Stacks ∧ Paired ctx r s) (finishScope ctx r).run
      (fun _ => Ended r) := by
  unfold finishScope
  refine Triple.run_liftM_bind (retire_stacks ctx r) fun b => ?_
  split
  · exact Triple.run_pure fun _ h => h
  refine KeepsFrame.scopes ?_ (stable_ended r)
  refine KeepsFrame.run_liftM_bind KeepsFrame.read fun w => ?_
  dsimp only
  split
  · refine KeepsFrame.run_liftM_bind KeepsFrame.read fun w' => ?_
    split
    · refine KeepsFrame.run_liftM_bind (abandonLocally_frame _).moves fun a => ?_
      split
      · exact KeepsFrame.run_pure _
      · exact (rollback_frame _).moves
    · exact KeepsFrame.run_pure _
  · exact KeepsFrame.run_pure _

theorem dropScope_stacks (ctx r : Nat) :
    Triple scopeRules (fun s => s.Stacks ∧ Paired ctx r s) (dropScope ctx r) (fun _ => Ended r) := by
  unfold dropScope
  refine Triple.bind (retire_stacks ctx r) fun b => ?_
  split
  · exact Triple.pure_of fun _ h => h
  refine KeepsFrame.scopes ?_ (stable_ended r)
  refine KeepsFrame.bind KeepsFrame.read fun w => ?_
  dsimp only
  split
  · refine KeepsFrame.bind KeepsFrame.read fun w' => ?_
    split
    · exact KeepsFrame.pure _
    · refine KeepsFrame.bind (abandonLocally_frame _).moves fun a => ?_
      split
      · exact KeepsFrame.pure _
      · -- the rollback runs as a task of its own, which keeps to the same frame
        refine KeepsFrame.bind (KeepsFrame.spawn (KeepsFrame.toFiber ?_)) fun _ =>
          KeepsFrame.pure _
        exact KeepsFrame.bind (rollback_frame _).moves fun _ => KeepsFrame.pure _
  · exact KeepsFrame.pure _

/-- Ending the innermost scope of the running code keeps the stacks right. -/
theorem endTransaction_stacks (m : Nat) :
    Triple scopeRules World.Stacks (endTransaction m).run (fun _ => World.Stacks) := by
  unfold endTransaction
  refine Triple.run_liftM_bind (KeepsFrame.scopes (contextOf_frame m) stable_stacks) fun ctx => ?_
  refine Triple.run_get_bind scopeRules_lawful fun w _ => ?_
  split
  · rename_i r htop
    -- the top of a stack sits in it
    have hm : r ∈ (w.context ctx).records := List.mem_of_getLast? htop
    refine ((finishScope_stacks ctx r).pre ?_).post fun _ _ h => h.1
    rintro s ⟨hw, hsame⟩
    exact ⟨hw.of_sched hsame, .inr ((hsame.sameScopes.context ctx).symm ▸ hm)⟩
  · exact Triple.run_pure fun s h => h.1.of_sched h.2

/-- What beginning a scope leaves: the stacks are right, and a scope that began is on top of
the stack it was pushed to. -/
def Begun (res : Except TxError (Nat × Nat)) (s : World) : Prop :=
  s.Stacks ∧ ∀ r ctx, res = .ok (r, ctx) → ctx < s.contexts.size → topOf s ctx = some r

theorem Begun.error {e : TxError} {s : World} (hs : s.Stacks) : Begun (.error e) s :=
  ⟨hs, fun _ _ h => nomatch h⟩

/-- Beginning a scope pushes its new record on top of the stack of the running code, and keeps
the stacks right whether it succeeds or fails. -/
theorem beginTransaction_stacks (m : Nat) (option : ScopeOption) (parent : Option Nat)
    (requested : Option String) :
    Triple scopeRules World.Stacks (beginTransaction m option parent requested).run Begun := by
  unfold beginTransaction
  refine Triple.run_get_bind scopeRules_lawful fun w _ => ?_
  refine Triple.pre ?_ fun s h => h.1.of_sched h.2
  extract_lets jpVersion
  have hVersion : ∀ version, Triple scopeRules World.Stacks (jpVersion version).run Begun := by
    intro version
    simp -zeta only [jpVersion]
    extract_lets jpTail jpChecked
    have hTail : Triple scopeRules World.Stacks (jpTail ()).run Begun := by
      simp -zeta only [jpTail]
      refine Triple.run_liftM_bind (KeepsFrame.scopes (contextOf_frame m) stable_stacks) fun ctx => ?_
      refine Triple.run_get_bind scopeRules_lawful fun w' _ => ?_
      refine Triple.pre ?_ fun s h => h.1.of_sched h.2
      extract_lets top database jpPush
      have hPush : ∀ x, Triple scopeRules World.Stacks (jpPush x).run Begun := by
        rintro ⟨handle, owner, enlisted⟩
        -- the new record comes last and is live; then it goes on top of the stack
        refine Triple.run_liftM_bind (Triple.modifyGet fun s _ => World.scopesFollow_make s _ _)
          fun r => ?_
        refine Triple.pre ?_ fun s' ⟨s, hs, hr, hsched⟩ => by
          subst hr
          exact (World.fresh_make hs _ rfl _).of_sched hsched
        refine Triple.run_liftM_bind (Triple.modify fun s hs =>
          World.scopesFollow_pushTo s hs.2.1 hs.2.2.1 hs.2.2.2) fun _ => ?_
        refine Triple.run_pure fun s' ⟨s, hs, hsched⟩ => ⟨?_, ?_⟩
        · exact (hs.1.of_follow (World.scopesFollow_pushTo s hs.2.1 hs.2.2.1 hs.2.2.2)).of_sched hsched
        · rintro r' ctx' heq hlt
          cases heq
          rw [hsched.contexts, World.size_contexts_modifyContext] at hlt
          rw [topOf, hsched.sameScopes.context, World.context_modifyContext, if_pos ⟨rfl, hlt⟩]
          exact List.getLast?_concat
      cases option with
      | suppress => exact Triple.run_pure_bind (hPush _)
      | requiresNew =>
        exact Triple.run_bind (fun _ => World.Stacks)
          (KeepsFrame.scopes (newHandle_frame m version database).moves stable_stacks)
          (fun _ => Triple.run_pure_bind (hPush _)) fun _ _ => Begun.error
      | join =>
        exact Triple.run_bind (fun _ => World.Stacks)
          (KeepsFrame.scopes (joinHandle_frame m version database requested parent top) stable_stacks)
          (fun _ => hPush _) fun _ _ => Begun.error
    have hChecked : Triple scopeRules World.Stacks (jpChecked ()).run Begun := by
      simp -zeta only [jpChecked]
      split
      · split
        · exact Triple.run_throw_bind fun _ => Begun.error
        · exact hTail
      · exact hTail
    split
    · exact Triple.run_throw_bind fun _ => Begun.error
    · exact hChecked
  split
  · exact Triple.run_pure_bind (hVersion _)
  · exact Triple.run_throw_bind fun _ => Begun.error

/-! ## Ending a scope twice -/

theorem retire_ended (ctx r : Nat) :
    Triple quietRules (fun s => (s.record r).ended = true) (retire ctx r) (fun b _ => b = false) := by
  refine (Triple.modifyGet fun s hs => ?_).post ?_
  · simp [quietRules, hs]
  · rintro _ _ ⟨s, hs, rfl, -⟩
    simp [hs]

/-- Ending a scope that has already ended changes nothing and sends nothing. -/
theorem finishScope_ended (ctx r : Nat) :
    Triple quietRules (fun s => (s.record r).ended = true) (finishScope ctx r).run
      (fun res _ => res = .ok ()) := by
  unfold finishScope
  refine Triple.run_liftM_bind (retire_ended ctx r) fun b => ?_
  split
  · exact Triple.run_pure fun _ _ => rfl
  · rename_i hb
    refine Triple.of_pre_fact (fun _ h => h) fun h => ?_
    subst h
    exact absurd rfl hb

theorem dropScope_ended (ctx r : Nat) :
    Triple quietRules (fun s => (s.record r).ended = true) (dropScope ctx r) (fun _ _ => True) := by
  unfold dropScope
  refine Triple.bind (retire_ended ctx r) fun b => ?_
  split
  · exact Triple.pure_of fun _ _ => trivial
  · rename_i hb
    refine Triple.of_pre_fact (fun _ h => h) fun h => ?_
    subst h
    exact absurd rfl hb

/-! ## What the running code reads of its stack -/

/-- Reading something of the running code's stack, once the stacks are right: what is read is
that of the stack in the state the code goes on from. -/
theorem readStack (m : Nat) {α : Type} (g : World → Nat → α)
    (hg : ∀ w s ctx, SameStacks w s → g s ctx = g w ctx) :
    Triple scopeRules World.Stacks (do let ctx ← contextOf m; pure (g (← Step.read) ctx))
      (fun a s => s.Stacks ∧ ∃ ctx, a = g s ctx) := by
  refine Triple.bind (KeepsFrame.scopes (contextOf_frame m) stable_stacks) fun ctx => ?_
  refine Triple.bind (Triple.get scopeRules_lawful) fun w => Triple.pure_of ?_
  rintro s ⟨hw, hsched⟩
  exact ⟨hw.of_sched hsched, ctx, (hg w s ctx hsched).symm⟩

/-- The depth is the number of live scopes pushed to the running code's stack. -/
theorem depth_stacks (m : Nat) :
    Triple scopeRules World.Stacks (depth m) fun n s => s.Stacks ∧
      ∃ ctx, ∀ home, s.Stacked home → n = (s.liveIn home ctx).length := by
  refine (readStack m (fun w ctx => (w.context ctx).records.length) fun w s ctx h => by
    rw [h.sameScopes.context]).post ?_
  rintro n s ⟨hs, ctx, rfl⟩
  exact ⟨hs, ctx, fun home hh => by rw [hh ctx]⟩

/-- The current transaction is the handle of the last live scope pushed to the running code's
stack, none when that stack is empty or its last scope is suppressed. -/
theorem currentTransaction_stacks (m : Nat) :
    Triple scopeRules World.Stacks (currentTransaction m) fun c s => s.Stacks ∧
      ∃ ctx, ∀ home, s.Stacked home →
        c = (s.liveIn home ctx).getLast?.bind fun r => (s.record r).handle := by
  refine (readStack m currentOf fun w s ctx h => by
    simp only [currentOf, topOf, World.record, h.records, h.sameScopes.context]).post ?_
  rintro c s ⟨hs, ctx, rfl⟩
  exact ⟨hs, ctx, fun home hh => by rw [currentOf, topOf, hh ctx]⟩

end Manager

end TxnCoord

namespace TxnCoord

open World (ScopesFollow)

/-- Whatever order the scopes of a stack begin and end in, by any of the three ways to end one
and also twice, the stack holds exactly the live scopes pushed to it, oldest first. Beginning
pushes a scope on top; ending takes it off wherever it sits and keeps it ended; the depth and
the current transaction are read off that list; a scope that has ended ends again without any
change; every run of tasks keeping to these rules keeps the stacks right; and once the scopes
pushed since some point have all ended while those below stayed, the current transaction is
back to what it was at that point. -/
theorem scope_stacks_hold_live_scopes :
    (∀ m option parent requested,
      Triple scopeRules World.Stacks (Manager.beginTransaction m option parent requested).run
        Manager.Begun) ∧
    (∀ ctx r, Stable ScopesFollow fun s => s.Stacks ∧ Paired ctx r s) ∧
    (∀ ctx r, Triple scopeRules (fun s => s.Stacks ∧ Paired ctx r s)
      (Manager.finishScope ctx r).run fun _ => Ended r) ∧
    (∀ ctx r, Triple scopeRules (fun s => s.Stacks ∧ Paired ctx r s)
      (Manager.dropScope ctx r) fun _ => Ended r) ∧
    (∀ m, Triple scopeRules World.Stacks (Manager.endTransaction m).run fun _ => World.Stacks) ∧
    (∀ m, Triple scopeRules World.Stacks (Manager.depth m) fun n s => s.Stacks ∧
      ∃ ctx, ∀ home, s.Stacked home → n = (s.liveIn home ctx).length) ∧
    (∀ m, Triple scopeRules World.Stacks (Manager.currentTransaction m) fun c s => s.Stacks ∧
      ∃ ctx, ∀ home, s.Stacked home →
        c = (s.liveIn home ctx).getLast?.bind fun r => (s.record r).handle) ∧
    (∀ ctx r, Triple quietRules (fun s => (s.record r).ended = true)
      (Manager.finishScope ctx r).run fun res _ => res = .ok ()) ∧
    (∀ ctx r, Triple quietRules (fun s => (s.record r).ended = true)
      (Manager.dropScope ctx r) fun _ _ => True) ∧
    (∀ (w : World) ctx, w.Stacks → (w.context ctx).records.Pairwise (· < ·)) ∧
    (∀ fuel (a : Agenda World Cond), Agenda.Sound scopeRules a → a.state.Stacks →
      Agenda.Sound scopeRules (Agenda.loop World.host fuel a) ∧
        (Agenda.loop World.host fuel a).state.Stacks ∧
        ScopesFollow a.state (Agenda.loop World.host fuel a).state) ∧
    ∀ (s₀ s₁ : World) ctx, s₀.Stacks → ScopesFollow s₀ s₁ →
      (∀ r ∈ (s₀.context ctx).records, (s₁.record r).ended = false) →
      (∀ r ∈ (s₁.context ctx).records, r ∈ (s₀.context ctx).records) →
      Manager.currentOf s₁ ctx = Manager.currentOf s₀ ctx :=
  ⟨Manager.beginTransaction_stacks, stable_paired, Manager.finishScope_stacks,
    Manager.dropScope_stacks, Manager.endTransaction_stacks, Manager.depth_stacks,
    Manager.currentTransaction_stacks, Manager.finishScope_ended, Manager.dropScope_ended,
    fun _ ctx hs => hs.pushOrder ctx,
    fun fuel a ha hs =>
      have hrun := Agenda.loop_sound scopeRules_lawful World.host_keeps_scopeRules fuel a ha
      ⟨hrun.1, hs.of_follow hrun.2, hrun.2⟩,
    fun _ _ _ hs hf hlive hnew => World.currentOf_restored hs hf hlive hnew⟩

/-- An inner scope with a transaction of its own, begun on top of an outer one and ended, gives
the stack back the outer scope's transaction. -/
theorem inner_scope_restores_current :
    Manager.currentOf
        { records := #[⟨0, .join, some 0, true, false, false⟩, ⟨1, .requiresNew, some 1, true, false, true⟩]
          contexts := #[{ records := [0] }], nextSerial := 2 } 0 =
      Manager.currentOf
        { records := #[⟨0, .join, some 0, true, false, false⟩], contexts := #[{ records := [0] }] } 0 := by
  refine scope_stacks_hold_live_scopes.2.2.2.2.2.2.2.2.2.2.2 _ _ 0 ⟨fun i => if i = 0 then some 0 else none, ?_⟩
    (World.scopesFollow_make _ _ _) (by decide) (by decide)
  intro ctx
  cases ctx with
  | zero => decide
  | succ k =>
    -- no other stack exists: the number names the empty one
    simp [World.context, World.liveIn]
    rfl

end TxnCoord
