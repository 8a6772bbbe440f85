import Mathlib.Order.Basic

/-!
# Support — loops of rounds, with fuel

A function that calls itself at its end until some round is done is a loop of rounds: each
round either returns or hands the next round a state.  `Fuel.loop round n s` runs at most `n`
rounds from `s`, and is `none` when they all ask for another.

* `loop_eq_none`: a set of states from which every round asks for another round from the set
  is never left, and the loop never returns from it, whatever the fuel.
* `loop_isSome`: a measure that every further round decreases bounds the rounds, and that
  much fuel suffices.
* `loop_inv`: what the rounds keep between them, and what the last one makes of it, holds of
  what the loop returns.
-/

namespace Fuel

variable {σ α : Type}

/-- What one round leads to: a result with the state after it, or another round from a state. -/
inductive Round (σ α : Type) where
  | done (a : α) (s : σ)
  | again (s : σ)

/-- Rounds one after another from `s` until one is done, at most `fuel` of them. -/
def loop (round : σ → Round σ α) : Nat → σ → Option (α × σ)
  | 0, _ => none
  | fuel + 1, s =>
    match round s with
    | .done a s' => some (a, s')
    | .again s' => loop round fuel s'

section Loop

variable {round : σ → Round σ α}

@[simp]
theorem loop_zero (s : σ) : loop round 0 s = none := rfl

theorem loop_done {s s' : σ} {a : α} (h : round s = .done a s') (fuel : Nat) :
    loop round (fuel + 1) s = some (a, s') := by
  rw [loop, h]

theorem loop_again {s s' : σ} (h : round s = .again s') (fuel : Nat) :
    loop round (fuel + 1) s = loop round fuel s' := by
  rw [loop, h]

/-- **A loop that never ends**: from a set of states whose every round asks for another round
from the set, no amount of fuel makes the loop return. -/
theorem loop_eq_none (I : σ → Prop) (hI : ∀ s, I s → ∃ s', round s = .again s' ∧ I s') :
    ∀ (fuel : Nat) {s : σ}, I s → loop round fuel s = none
  | 0, _, _ => rfl
  | fuel + 1, s, hs => by
    obtain ⟨s', hr, hs'⟩ := hI s hs
    rw [loop_again hr]
    exact loop_eq_none I hI fuel hs'

/-- **Enough fuel**: when every round that asks for another decreases `μ`, more fuel than `μ s`
makes the loop return. -/
theorem loop_isSome (μ : σ → Nat) (hμ : ∀ s s', round s = .again s' → μ s' < μ s) :
    ∀ (fuel : Nat) (s : σ), μ s < fuel → (loop round fuel s).isSome
  | 0, _, h => absurd h (Nat.not_lt_zero _)
  | fuel + 1, s, h => by
    cases hr : round s with
    | done a s' => rw [loop_done hr]; rfl
    | again s' =>
      rw [loop_again hr]
      exact loop_isSome μ hμ fuel s' (by have := hμ s s' hr; omega)

/-- What the rounds keep between them, `I`, and what a last round makes of a state in it, `J`,
hold of what the loop returns. -/
theorem loop_inv (I : σ → Prop) (J : α × σ → Prop) (hdone : ∀ s a s', I s → round s = .done a s' → J (a, s'))
    (hagain : ∀ s s', I s → round s = .again s' → I s') :
    ∀ (fuel : Nat) {s : σ} {r : α × σ}, I s → loop round fuel s = some r → J r
  | 0, _, _, _, h => nomatch h
  | fuel + 1, s, r, hs, h => by
    cases hr : round s with
    | done a s' =>
      rw [loop_done hr, Option.some.injEq] at h
      subst h
      exact hdone s a s' hs hr
    | again s' =>
      rw [loop_again hr] at h
      exact loop_inv I J hdone hagain fuel (hagain s s' hs hr) h

end Loop

end Fuel
