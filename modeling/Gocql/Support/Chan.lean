import Mathlib.Logic.Function.Iterate

/-!
# Support — Go channels seen from their sender

A channel that one goroutine sends into and closes, and another receives from once.  The sender
side is what a model of the sender tracks: the values sent, in order, and the number of calls
of `close` (a second one panics in Go, so a model that proves it never happens has to count
them).  The receiver's one receive is `recv?`: the first value sent, the zero value with `ok`
false on a closed channel that holds nothing, or nothing yet while it blocks.

* `Chan.send`, `Chan.close`, `Chan.recv?`.
* `Chan.forEach`: `for _, i := range ids { f(chans[i]) }` over a table of channels;
  `forEach_apply` says each channel gets `f` as many times as its index is listed, and
  `forEach_of_nodup` that over a list with no repeats it gets `f` once.
-/

/-- A channel's history on the sending side. -/
structure Chan (α : Type) where
  /-- The values sent into it, in order. -/
  sent : List α
  /-- The calls of `close` on it. -/
  closes : Nat
  deriving DecidableEq, Repr

namespace Chan

variable {α : Type}

/-- `make(chan T, n)`. -/
def empty : Chan α := ⟨[], 0⟩

/-- `c <- a`. -/
def send (c : Chan α) (a : α) : Chan α := { c with sent := c.sent ++ [a] }

/-- `close(c)`. -/
def close (c : Chan α) : Chan α := { c with closes := c.closes + 1 }

/-- The first receive `v, ok := <-c`: `some (some v)` for the first value sent, `some none` on a
closed channel with nothing sent, `none` while it blocks. -/
def recv? (c : Chan α) : Option (Option α) :=
  match c.sent with
  | a :: _ => some (some a)
  | [] => if 0 < c.closes then some none else none

/-- `for _, i := range ids { f(cs[i]) }`, over channels (or records holding one) named by index. -/
def forEach {β : Type} (ids : List Nat) (f : β → β) (cs : Nat → β) : Nat → β :=
  ids.foldl (fun g i => Function.update g i (f (g i))) cs

/-- Channel `l` gets `f` once for each time `l` is listed. -/
theorem forEach_apply {β : Type} (ids : List Nat) (f : β → β) (cs : Nat → β) (l : Nat) :
    forEach ids f cs l = f^[ids.count l] (cs l) := by
  induction ids generalizing cs with
  | nil => rfl
  | cons i ids ih =>
    rw [forEach, List.foldl_cons, ← forEach, ih, List.count_cons]
    by_cases h : i = l
    · subst h
      simp
    · simp [Function.update_of_ne (Ne.symm h), h]

/-- Over a list with no repeats, each listed channel gets `f` once and the others nothing. -/
theorem forEach_of_nodup {β : Type} {ids : List Nat} (hn : ids.Nodup) (f : β → β) (cs : Nat → β)
    (l : Nat) : forEach ids f cs l = if l ∈ ids then f (cs l) else cs l := by
  rw [forEach_apply, hn.count]
  split <;> rfl

end Chan
