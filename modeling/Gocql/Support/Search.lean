import Mathlib.Data.List.Basic

/-!
# Support — Go's `sort.Search`

`sort.Search(n, f)` finds, by bisection of `[0, n)`, the least index at which `f` holds, for an
`f` that is false then true along `[0, n)`; it is `n` when `f` holds nowhere.  Go's loop:

    i, j := 0, n
    for i < j {
        h := int(uint(i+j) >> 1)
        if !f(h) { i = h + 1 } else { j = h }
    }
    return i

* `searchLoop`, `search`: the loop, with fuel; each iteration narrows `[i, j)`, so `n`
  iterations are enough (`searchLoop_inv`).
* `search_spec`: for a monotone `f`, no index below the result satisfies `f`, and the result,
  if below `n`, does; `search_eq_findIdx`: so it is the first index a linear scan finds.
-/

namespace Go

/-- The loop of `sort.Search` over `[i, j)` with `fuel` iterations left. -/
def searchLoop (f : Nat → Bool) : Nat → Nat → Nat → Nat
  | 0, i, _ => i
  | fuel + 1, i, j =>
    if i < j then
      -- `int(uint(i+j) >> 1)`: no overflow for the lengths of Go slices
      let h := (i + j) / 2
      if !f h then searchLoop f fuel (h + 1) j else searchLoop f fuel i h
    else i

/-- `sort.Search(n, f)`. -/
def search (n : Nat) (f : Nat → Bool) : Nat := searchLoop f n 0 n

section Spec

variable {n : Nat} {f : Nat → Bool}

/-- `f` is false, then true, along `[0, n)`. -/
def Monotone (n : Nat) (f : Nat → Bool) : Prop := ∀ a b, a ≤ b → b < n → f a = true → f b = true

/-- The loop's invariant: `f` fails below `i` and holds at `j` (or `j = n`). -/
structure SearchInv (n : Nat) (f : Nat → Bool) (i j : Nat) : Prop where
  le : i ≤ j
  le_n : j ≤ n
  below : ∀ m < i, f m = false
  at_j : j < n → f j = true

/-- One iteration keeps the invariant, on whichever half it keeps. -/
theorem SearchInv.step (hf : Monotone n f) {i j : Nat} (h : SearchInv n f i j) (hij : i < j) :
    (f ((i + j) / 2) = false → SearchInv n f ((i + j) / 2 + 1) j) ∧
      (f ((i + j) / 2) = true → SearchInv n f i ((i + j) / 2)) := by
  obtain ⟨hle, hn, hbelow, hj⟩ := h
  constructor
  · intro hh
    refine ⟨by omega, hn, fun m hm => ?_, hj⟩
    by_cases hmi : m < i
    · exact hbelow m hmi
    · -- below the midpoint, where `f` fails, it fails too
      cases hfm : f m with
      | false => rfl
      | true => rw [hf m _ (by omega) (by omega) hfm] at hh; exact hh
  · intro hh
    exact ⟨by omega, by omega, hbelow, fun _ => hh⟩

/-- With enough fuel the loop ends where the invariant meets itself. -/
theorem searchLoop_inv (hf : Monotone n f) (fuel i j : Nat) (h : SearchInv n f i j)
    (hfuel : j - i ≤ fuel) : SearchInv n f (searchLoop f fuel i j) (searchLoop f fuel i j) := by
  fun_induction searchLoop f fuel i j with
  | case1 i j =>
    have heq : j = i := by have := h.le; omega
    subst heq
    exact h
  | case2 fuel i j hij h' hh ih =>
    have hfalse : f h' = false := by simpa using hh
    exact ih ((h.step hf hij).1 hfalse) (by omega)
  | case3 fuel i j hij h' hh ih =>
    have htrue : f h' = true := by simpa using hh
    exact ih ((h.step hf hij).2 htrue) (by omega)
  | case4 fuel i j hij =>
    have heq : j = i := by have := h.le; omega
    subst heq
    exact h

/-- **`sort.Search` finds the least index** at which a monotone `f` holds, or `n`. -/
theorem search_spec (hf : Monotone n f) :
    search n f ≤ n ∧ (∀ m < search n f, f m = false) ∧ (search n f < n → f (search n f) = true) := by
  have hinit : SearchInv n f 0 n :=
    ⟨Nat.zero_le _, Nat.le_refl _, fun _ h => absurd h (Nat.not_lt_zero _), fun h => absurd h (Nat.lt_irrefl _)⟩
  obtain ⟨-, hle, hbelow, hat⟩ := searchLoop_inv hf n 0 n hinit (by omega)
  exact ⟨hle, hbelow, hat⟩

/-- **Bisection agrees with a linear scan** of a list by a predicate that is false, then true. -/
theorem search_eq_findIdx {α : Type} (l : List α) (p : α → Bool)
    (hp : ∀ a b (hab : a ≤ b) (hb : b < l.length), p l[a] = true → p l[b] = true) :
    search l.length (fun i => (l[i]?).all p) = l.findIdx p := by
  have hf : Monotone l.length (fun i => (l[i]?).all p) := by
    intro a b hab hb ha
    simp only at ha ⊢
    rw [List.getElem?_eq_getElem (by omega), Option.all_some] at ha ⊢
    exact hp a b hab hb ha
  obtain ⟨hle, hbelow, hat⟩ := search_spec hf
  rcases Nat.lt_or_eq_of_le hle with hlt | heq
  · -- the scan stops at the same index
    have hs := hat hlt
    rw [List.getElem?_eq_getElem hlt, Option.all_some] at hs
    refine ((List.findIdx_eq hlt).mpr ⟨hs, fun j hj => ?_⟩).symm
    have := hbelow j hj
    rwa [List.getElem?_eq_getElem (by omega), Option.all_some] at this
  · -- neither finds an index
    rw [heq]
    refine (List.findIdx_eq_length.mpr fun x hx => ?_).symm
    obtain ⟨k, hk, rfl⟩ := List.getElem_of_mem hx
    have := hbelow k (by omega)
    rwa [List.getElem?_eq_getElem hk, Option.all_some] at this

end Spec

end Go
