/-!
# Support — Go panics

A Go function can return, `panic` with a value, or fail at run time (an index or a slice
bound out of range, a negative length given to `make`): the runtime then panics with a
`runtime.Error`.  A `recover` that re-panics run-time errors and turns every other panic value
into a returned error is a common Go idiom; the difference between the two kinds of panic is
what this library keeps.

* `Outcome ε α`: a value, a `panic` with an `ε`, or a `RuntimeError`.
* `Prog σ ε α`: a function of a mutable state `σ` with such an outcome, the shape of a method
  on a struct that reads and advances a buffer.  It is a monad, so the model is written in
  `do` notation as the Go code is written statement by statement.
* `index`, `setIndex`, `slice`, `makeSlice`, `deref`: the built-in operations that fail at run
  time; `Outcome` is a monad for statements that use them in sequence, and a loop none of
  whose iterations fails is its plain fold (`Outcome.foldlM_ok`).
* `NoCrash`: a program ends in no run-time error from any state; the rules `NoCrash.bind`,
  `NoCrash.replicate` and the cases for the primitives compose it along a program.
* `ErrorsIn P`: every error an `Except` computation ends in satisfies `P`, for code that models
  its panics as errors that no caller catches; `ErrorsIn.bind` composes it.
-/

namespace Go

/-- The run-time errors the modelled code can raise. -/
inductive RuntimeError where
  /-- `index out of range [i] with length n` -/
  | indexOutOfRange (i n : Int)
  /-- `slice bounds out of range`, for `xs[lo:hi]` of length `n` -/
  | sliceBoundsOutOfRange (lo hi n : Int)
  /-- `makeslice: len out of range` -/
  | makeSliceLenOutOfRange (n : Int)
  /-- `invalid memory address or nil pointer dereference` -/
  | nilDereference
  deriving DecidableEq, Repr

/-- How a Go call ends. -/
inductive Outcome (ε α : Type) where
  | ok (a : α)
  | panic (e : ε)
  | crash (r : RuntimeError)
  deriving DecidableEq, Repr

variable {σ ε α β : Type}

/-- Go statements in sequence, each of which may panic: the first panic ends them. -/
instance : Monad (Outcome ε) where
  pure a := .ok a
  bind o f :=
    match o with
    | .ok a => f a
    | .panic e => .panic e
    | .crash r => .crash r

namespace Outcome

@[simp] theorem pure_eq (a : α) : (pure a : Outcome ε α) = .ok a := rfl

@[simp] theorem ok_bind (a : α) (f : α → Outcome ε β) : ((.ok a : Outcome ε α) >>= f) = f a := rfl

@[simp] theorem crash_bind (r : RuntimeError) (f : α → Outcome ε β) :
    ((.crash r : Outcome ε α) >>= f) = .crash r := rfl

@[simp] theorem panic_bind (e : ε) (f : α → Outcome ε β) : ((.panic e : Outcome ε α) >>= f) = .panic e :=
  rfl

/-- A sequence that returned ran its first statement to a value. -/
theorem bind_eq_ok {o : Outcome ε α} {f : α → Outcome ε β} {b : β} (h : (o >>= f) = .ok b) :
    ∃ a, o = .ok a ∧ f a = .ok b := by
  cases o with
  | ok a => exact ⟨a, rfl, h⟩
  | panic e => cases h
  | crash r => cases h

/-- A loop whose every iteration returns a value returns the plain fold of its iterations. -/
theorem foldlM_ok {f : β → α → Outcome ε β} {g : β → α → β} :
    ∀ (l : List α) (b : β), (∀ b, ∀ a ∈ l, f b a = .ok (g b a)) → l.foldlM f b = .ok (l.foldl g b)
  | [], _, _ => rfl
  | a :: l, b, h => by
    rw [List.foldlM_cons, h b a List.mem_cons_self, ok_bind, List.foldl_cons]
    exact foldlM_ok l (g b a) fun b' a' ha' => h b' a' (List.mem_cons_of_mem a ha')

end Outcome

/-- A Go function of a mutable state `σ`: it returns a value and the new state, or panics. -/
def Prog (σ ε α : Type) : Type := σ → Outcome ε (α × σ)

namespace Prog

instance : Monad (Prog σ ε) where
  pure a := fun s => .ok (a, s)
  bind m f := fun s =>
    match m s with
    | .ok (a, s') => f a s'
    | .panic e => .panic e
    | .crash r => .crash r

@[simp]
theorem pure_apply (a : α) (s : σ) : (pure a : Prog σ ε α) s = .ok (a, s) := rfl

theorem bind_apply (m : Prog σ ε α) (f : α → Prog σ ε β) (s : σ) :
    (m >>= f) s =
      match m s with
      | .ok (a, s') => f a s'
      | .panic e => .panic e
      | .crash r => .crash r := rfl

/-- A first step that returns is followed by the rest, from the state it leaves. -/
theorem bind_apply_of_ok {m : Prog σ ε α} {s s' : σ} {a : α} (h : m s = .ok (a, s'))
    (f : α → Prog σ ε β) : (m >>= f) s = f a s' := by
  rw [bind_apply, h]

/-- A program that returned ran its first step to a value, and the rest from the state that
step left. -/
theorem bind_eq_ok {m : Prog σ ε α} {f : α → Prog σ ε β} {s s'' : σ} {b : β}
    (h : (m >>= f) s = .ok (b, s'')) : ∃ a s', m s = .ok (a, s') ∧ f a s' = .ok (b, s'') := by
  rw [bind_apply] at h
  rcases hm : m s with ⟨a, s'⟩ | e | r
  · rw [hm] at h
    exact ⟨a, s', rfl, h⟩
  · rw [hm] at h
    cases h
  · rw [hm] at h
    cases h

/-- The state. -/
def get : Prog σ ε σ := fun s => .ok (s, s)

/-- Replace the state. -/
def set (s : σ) : Prog σ ε Unit := fun _ => .ok ((), s)

/-- `panic(e)` with a value `e`. -/
def throw (e : ε) : Prog σ ε α := fun _ => .panic e

/-- An outcome that does not touch the state. -/
def lift (o : Outcome ε α) : Prog σ ε α := fun s =>
  match o with
  | .ok a => .ok (a, s)
  | .panic e => .panic e
  | .crash r => .crash r

@[simp]
theorem get_bind (f : σ → Prog σ ε β) (s : σ) : (get >>= f) s = f s s := rfl

@[simp]
theorem set_bind (s' : σ) (f : Unit → Prog σ ε β) (s : σ) : (set s' >>= f) s = f () s' := rfl

@[simp]
theorem throw_bind (e : ε) (f : α → Prog σ ε β) : (throw e >>= f) = throw e := rfl

@[simp]
theorem throw_apply (e : ε) (s : σ) : (throw e : Prog σ ε α) s = .panic e := rfl

@[simp]
theorem lift_ok_bind (a : α) (f : α → Prog σ ε β) : (lift (.ok a) >>= f) = f a := rfl

@[simp]
theorem lift_ok_apply (a : α) (s : σ) : (lift (.ok a) : Prog σ ε α) s = .ok (a, s) := rfl

@[simp]
theorem lift_crash_bind (r : RuntimeError) (f : α → Prog σ ε β) :
    (lift (.crash r) >>= f) = lift (.crash r) := rfl

theorem pure_bind (a : α) (f : α → Prog σ ε β) : (pure a >>= f) = f a := rfl

theorem bind_assoc {γ : Type} (m : Prog σ ε α) (g : α → Prog σ ε β) (f : β → Prog σ ε γ) :
    (m >>= g >>= f) = m >>= fun a => g a >>= f := by
  funext s
  simp only [bind_apply]
  cases m s with
  | ok p => rfl
  | panic e => rfl
  | crash r => rfl

theorem ite_bind {c : Prop} {d : Decidable c} (m₁ m₂ : Prog σ ε α) (f : α → Prog σ ε β) :
    (@ite _ c d m₁ m₂ >>= f) = @ite _ c d (m₁ >>= f) (m₂ >>= f) := by
  split <;> rfl

/-- `if c { panic(e) }`. -/
def panicIf (c : Prop) [Decidable c] (e : ε) : Prog σ ε Unit := if c then throw e else pure ()

@[simp]
theorem panicIf_pos_bind {c : Prop} [Decidable c] (h : c) (e : ε) (f : Unit → Prog σ ε β) :
    (panicIf c e >>= f) = throw e := by
  simp only [panicIf, if_pos h]
  rfl

@[simp]
theorem panicIf_neg_bind {c : Prop} [Decidable c] (h : ¬ c) (e : ε) (f : Unit → Prog σ ε β) :
    (panicIf c e >>= f) = f () := by
  simp only [panicIf, if_neg h]
  rfl

/-- `for i := 0; i < n; i++ { xs[i] = m }`: `m` run `n` times, its results in order. -/
def replicate : Nat → Prog σ ε α → Prog σ ε (List α)
  | 0, _ => pure []
  | n + 1, m => do
      let a ← m
      let as ← replicate n m
      pure (a :: as)

end Prog

/-! ### The built-in operations that fail at run time -/

/-- `xs[i]`. -/
def index (xs : List α) (i : Int) : Outcome ε α :=
  if h : 0 ≤ i ∧ i < xs.length then .ok (xs.get ⟨i.toNat, by omega⟩)
  else .crash (.indexOutOfRange i xs.length)

/-- `xs[i] = x`. -/
def setIndex (xs : List α) (i : Int) (x : α) : Outcome ε (List α) :=
  if 0 ≤ i ∧ i < xs.length then .ok (xs.set i.toNat x) else .crash (.indexOutOfRange i xs.length)

/-- `*p`, for a pointer `p` that is nil when `none`. -/
def deref : Option α → Outcome ε α
  | some a => .ok a
  | none => .crash .nilDereference

/-- `xs[lo:hi]`, with the capacity of `xs` taken to be its length. -/
def slice (xs : List α) (lo hi : Int) : Outcome ε (List α) :=
  if 0 ≤ lo ∧ lo ≤ hi ∧ hi ≤ xs.length then .ok ((xs.drop lo.toNat).take (hi - lo).toNat)
  else .crash (.sliceBoundsOutOfRange lo hi xs.length)

/-- `make([]T, n)`, filled with `x`. -/
def makeSlice (n : Int) (x : α) : Outcome ε (List α) :=
  if 0 ≤ n then .ok (List.replicate n.toNat x) else .crash (.makeSliceLenOutOfRange n)

theorem index_of_lt {xs : List α} {i : Nat} (h : i < xs.length) :
    (index xs i : Outcome ε α) = .ok (xs.get ⟨i, h⟩) := by
  simp [index, h]

@[simp]
theorem index_zero_cons (x : α) (xs : List α) : (index (x :: xs) 0 : Outcome ε α) = .ok x := by
  simp [index]

/-- `xs[:hi]` within bounds. -/
theorem slice_zero {xs : List α} {hi : Int} (h₀ : 0 ≤ hi) (h : hi ≤ xs.length) :
    (slice xs 0 hi : Outcome ε (List α)) = .ok (xs.take hi.toNat) := by
  simp [slice, h₀, h]

/-- `xs[lo:]` within bounds. -/
theorem slice_length {xs : List α} {lo : Int} (h₀ : 0 ≤ lo) (h : lo ≤ xs.length) :
    (slice xs lo xs.length : Outcome ε (List α)) = .ok (xs.drop lo.toNat) := by
  have hlen : ((xs.length : Int) - lo).toNat = (xs.drop lo.toNat).length := by
    rw [List.length_drop]; omega
  simp only [slice, h₀, h, Int.le_refl, and_self, if_true, hlen, List.take_length]

/-- `xs[lo:hi]` with a negative bound. -/
theorem slice_of_neg {xs : List α} {lo hi : Int} (h : hi < 0) :
    (slice xs lo hi : Outcome ε (List α)) = .crash (.sliceBoundsOutOfRange lo hi xs.length) := by
  simp only [slice]
  rw [if_neg (fun h' => by omega)]

theorem slice_of_length_lt {xs : List α} {lo hi : Int} (h : (xs.length : Int) < hi) :
    (slice xs lo hi : Outcome ε (List α)) = .crash (.sliceBoundsOutOfRange lo hi xs.length) := by
  simp only [slice]
  rw [if_neg (fun h' => by omega)]

/-- `xs[i] = x` at the element right after a prefix. -/
theorem setIndex_append_cons {i : Int} (pre rest : List α) (y x : α) (hi : i = pre.length) :
    (setIndex (pre ++ y :: rest) i x : Outcome ε (List α)) = .ok (pre ++ x :: rest) := by
  have hlt : ((pre.length : Nat) : Int) < ((pre ++ y :: rest).length : Nat) := by
    simp only [List.length_append, List.length_cons]
    omega
  simp only [setIndex, hi, Int.natCast_nonneg, hlt, and_self, if_true, Int.toNat_natCast,
    List.set_append_right _ _ (Nat.le_refl _), Nat.sub_self, List.set_cons_zero]

/-! ### Programs with no run-time error -/

/-- `m` ends in no run-time error, from any state. -/
def NoCrash (m : Prog σ ε α) : Prop := ∀ s r, m s ≠ .crash r

theorem noCrash_pure (a : α) : NoCrash (pure a : Prog σ ε α) := by
  intro s r h
  cases h

theorem noCrash_get : NoCrash (Prog.get : Prog σ ε σ) := by
  intro s r h
  cases h

theorem noCrash_set (s' : σ) : NoCrash (Prog.set s' : Prog σ ε Unit) := by
  intro s r h
  cases h

theorem noCrash_throw (e : ε) : NoCrash (Prog.throw e : Prog σ ε α) := by
  intro s r h
  cases h

theorem noCrash_panicIf (c : Prop) [Decidable c] (e : ε) :
    NoCrash (Prog.panicIf c e : Prog σ ε Unit) := by
  intro s r h
  unfold Prog.panicIf at h
  split at h
  · cases h
  · cases h

theorem NoCrash.bind {m : Prog σ ε α} {f : α → Prog σ ε β} (hm : NoCrash m)
    (hf : ∀ a, NoCrash (f a)) : NoCrash (m >>= f) := by
  intro s r h
  rw [Prog.bind_apply] at h
  cases hms : m s with
  | ok p =>
      rw [hms] at h
      exact hf p.1 p.2 r h
  | panic e =>
      rw [hms] at h
      cases h
  | crash r' => exact hm s r' hms

theorem NoCrash.map {m : Prog σ ε α} (f : α → β) (hm : NoCrash m) : NoCrash (f <$> m) :=
  hm.bind fun _ => noCrash_pure _

/-- The loop of `Prog.replicate`, by induction on its count. -/
theorem NoCrash.replicate {m : Prog σ ε α} (hm : NoCrash m) :
    ∀ n, NoCrash (Prog.replicate n m)
  | 0 => noCrash_pure []
  | n + 1 => hm.bind fun _ => (NoCrash.replicate hm n).bind fun _ => noCrash_pure _

/-- A conditional whose branches end in no run-time error under their conditions. -/
theorem NoCrash.ite_of {c : Prop} {d : Decidable c} {m₁ m₂ : Prog σ ε α} (h₁ : c → NoCrash m₁)
    (h₂ : ¬ c → NoCrash m₂) : NoCrash (@ite _ c d m₁ m₂) := by
  split
  · rename_i hc; exact h₁ hc
  · rename_i hc; exact h₂ hc

/-- A conditional whose branches end in no run-time error. -/
theorem NoCrash.ite {c : Prop} {d : Decidable c} {m₁ m₂ : Prog σ ε α} (h₁ : NoCrash m₁)
    (h₂ : NoCrash m₂) : NoCrash (@ite _ c d m₁ m₂) :=
  NoCrash.ite_of (fun _ => h₁) (fun _ => h₂)

/-! ### Errors of an `Except` computation -/

/-- Every error `r` can end in satisfies `P`. -/
def ErrorsIn (P : ε → Prop) : Except ε α → Prop
  | .ok _ => True
  | .error e => P e

@[simp]
theorem errorsIn_ok {P : ε → Prop} (a : α) : ErrorsIn P (.ok a : Except ε α) := trivial

@[simp]
theorem errorsIn_error {P : ε → Prop} (e : ε) : ErrorsIn P (.error e : Except ε α) ↔ P e :=
  Iff.rfl

@[simp]
theorem except_ok_bind (a : α) (f : α → Except ε β) : ((.ok a : Except ε α) >>= f) = f a := rfl

/-- A bound `Except` computation that returned ran its first part to a value. -/
theorem bind_eq_ok {x : Except ε α} {f : α → Except ε β} {b : β} (h : (x >>= f) = .ok b) :
    ∃ a, x = .ok a ∧ f a = .ok b := by
  cases x with
  | error e => cases h
  | ok a => exact ⟨a, rfl, h⟩

theorem ErrorsIn.bind {P : ε → Prop} {x : Except ε α} {f : α → Except ε β} (hx : ErrorsIn P x)
    (hf : ∀ a, x = .ok a → ErrorsIn P (f a)) : ErrorsIn P (x >>= f) := by
  cases x with
  | error e => exact hx
  | ok a => exact hf a rfl

end Go
