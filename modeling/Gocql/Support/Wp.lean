import Gocql.Support.Panic

/-!
# Support — what a program guarantees when it does not panic

The weakest precondition of a `Go.Prog` for a postcondition, panics excluded: from a state in
`wp m Q`, the program does not panic, and a value it returns satisfies `Q` with the state it
leaves.  A run-time error is allowed.  This is the guarantee to prove of code whose only panic
is one of the model's own (running out of a fuel that bounds a recursion): that the fuel given
is enough is that the program is in `wp m (fun _ _ => True)` from the state it starts in.

* `Outcome.wp_bind`, `Prog.wp_bind`: the guarantee of a sequence is that of its first statement
  for the guarantee of the rest; with `wp_get`, `wp_set` and `wp_pure` a program reduces to the
  guarantees of the calls it makes.
* `Outcome.wp.mono`, `Prog.wp.mono`: a guarantee implies every weaker one, the rule by which a
  call's specification meets the postcondition of its caller.
* `Outcome.wp_foldlM`, `Outcome.wp_mapM`: a loop whose every pass keeps an invariant, or whose
  every element meets a guarantee, does not panic.
* `Prog.Approx`: a program that runs as another or panics; `Approx.bind` and `Approx.ite` carry
  it through a program whose recursive calls approximate each other, the rule by which one fuel
  more changes nothing, and `Outcome.Approx.eq_of_wp` turns it into an equality where there is
  no panic.
-/

namespace Go

variable {σ ε α β : Type}

/-- The statements of `Outcome` in sequence obey the monad laws. -/
instance instLawfulMonadOutcome : LawfulMonad (Outcome ε) :=
  LawfulMonad.mk' (Outcome ε)
    (fun x => by cases x <;> rfl)
    (fun _ _ => rfl)
    (fun x _ _ => by cases x <;> rfl)

namespace Outcome

/-- What `o` guarantees: it is no panic, and a value it is satisfies `Q`. -/
def wp (o : Outcome ε α) (Q : α → Prop) : Prop :=
  match o with
  | .ok a => Q a
  | .panic _ => False
  | .crash _ => True

@[simp] theorem wp_ok (a : α) (Q : α → Prop) : (Outcome.ok a : Outcome ε α).wp Q = Q a := rfl

@[simp] theorem wp_panic (e : ε) (Q : α → Prop) : (Outcome.panic e : Outcome ε α).wp Q = False :=
  rfl

@[simp] theorem wp_crash (r : RuntimeError) (Q : α → Prop) :
    (Outcome.crash r : Outcome ε α).wp Q = True := rfl

@[simp] theorem wp_pure (a : α) (Q : α → Prop) : (pure a : Outcome ε α).wp Q = Q a := rfl

@[simp] theorem wp_bind (o : Outcome ε α) (f : α → Outcome ε β) (Q : β → Prop) :
    (o >>= f).wp Q = o.wp fun a => (f a).wp Q := by
  cases o <;> rfl

theorem wp.mono {o : Outcome ε α} {Q R : α → Prop} (h : o.wp Q) (hQR : ∀ a, Q a → R a) :
    o.wp R := by
  cases o with
  | ok a => exact hQR a h
  | panic e => exact h
  | crash r => trivial

/-- A statement that guarantees `P`, followed by statements that guarantee `Q` from every value
satisfying `P`, guarantees `Q`. -/
theorem wp_bind_of {o : Outcome ε α} {f : α → Outcome ε β} {P : α → Prop} {Q : β → Prop}
    (ho : o.wp P) (hf : ∀ a, P a → (f a).wp Q) : (o >>= f).wp Q := by
  rw [wp_bind]
  exact ho.mono hf

theorem ne_panic_of_wp {o : Outcome ε α} {Q : α → Prop} (h : o.wp Q) (e : ε) : o ≠ .panic e := by
  rintro rfl
  exact h

/-- `xs[i]` panics with no value of the program's own: within bounds it returns an element,
and out of them it fails at run time. -/
theorem wp_index {xs : List α} {i : Int} {Q : α → Prop}
    (h : 0 ≤ i → i < xs.length → ∀ a ∈ xs, Q a) : (index xs i : Outcome ε α).wp Q := by
  unfold index
  split
  · rename_i hi
    exact h hi.1 hi.2 _ (List.get_mem _ _)
  · trivial

theorem wp_deref {p : Option α} {Q : α → Prop} (h : ∀ a, p = some a → Q a) :
    (deref p : Outcome ε α).wp Q := by
  cases p with
  | none => trivial
  | some a => exact h a rfl

/-- A loop each of whose passes keeps `I` keeps it, and does not panic. -/
theorem wp_foldlM {f : β → α → Outcome ε β} {I : β → Prop} {l : List α}
    (hf : ∀ b, I b → ∀ a ∈ l, (f b a).wp I) : ∀ {b : β}, I b → (l.foldlM f b).wp I := by
  induction l with
  | nil => intro b hb; exact hb
  | cons a l ih =>
    intro b hb
    rw [List.foldlM_cons, wp_bind]
    exact (hf b hb a List.mem_cons_self).mono fun b' hb' =>
      ih (fun c hc x hx => hf c hc x (List.mem_cons_of_mem a hx)) hb'

/-- `mapM` over elements each of which meets `P` returns a list whose elements meet it. -/
theorem wp_mapM {f : α → Outcome ε β} {P : β → Prop} :
    ∀ {l : List α}, (∀ a ∈ l, (f a).wp P) → (l.mapM f).wp fun bs => ∀ b ∈ bs, P b
  | [], _ => by
    rw [List.mapM_nil, wp_pure]
    intro b hb
    cases hb
  | a :: l, h => by
    rw [List.mapM_cons, wp_bind]
    refine (h a List.mem_cons_self).mono fun b hb => ?_
    rw [wp_bind]
    refine (wp_mapM fun x hx => h x (List.mem_cons_of_mem a hx)).mono fun bs hbs => ?_
    rw [wp_pure]
    intro c hc
    rcases List.mem_cons.mp hc with rfl | hc
    · exact hb
    · exact hbs c hc

end Outcome

namespace Prog

/-- What `m` guarantees from `s`: it does not panic, and a value it returns satisfies `Q` with
the state it leaves. -/
def wp (m : Prog σ ε α) (Q : α → σ → Prop) (s : σ) : Prop :=
  (m s).wp fun r => Q r.1 r.2

@[simp] theorem wp_pure (a : α) (Q : α → σ → Prop) (s : σ) :
    (pure a : Prog σ ε α).wp Q s = Q a s := rfl

@[simp] theorem wp_get (Q : σ → σ → Prop) (s : σ) : (get : Prog σ ε σ).wp Q s = Q s s := rfl

@[simp] theorem wp_set (s' : σ) (Q : Unit → σ → Prop) (s : σ) :
    (set s' : Prog σ ε Unit).wp Q s = Q () s' := rfl

@[simp] theorem wp_throw (e : ε) (Q : α → σ → Prop) (s : σ) :
    (throw e : Prog σ ε α).wp Q s = False := rfl

@[simp] theorem wp_bind (m : Prog σ ε α) (f : α → Prog σ ε β) (Q : β → σ → Prop) (s : σ) :
    (m >>= f).wp Q s = m.wp (fun a s' => (f a).wp Q s') s := by
  unfold wp
  rw [bind_apply]
  cases m s <;> rfl

theorem wp_ite {c : Prop} {d : Decidable c} (m₁ m₂ : Prog σ ε α) (Q : α → σ → Prop) (s : σ) :
    (@ite _ c d m₁ m₂).wp Q s = if c then m₁.wp Q s else m₂.wp Q s := by
  split <;> rfl

/-- An outcome lifted into a program guarantees what it guarantees, in the state it started
in. -/
theorem wp_lift {o : Outcome ε α} {Q : α → σ → Prop} {s : σ} (h : o.wp fun a => Q a s) :
    (lift o).wp Q s := by
  cases o with
  | ok a => exact h
  | panic e => exact h
  | crash r => trivial

theorem wp.mono {m : Prog σ ε α} {Q R : α → σ → Prop} {s : σ} (h : m.wp Q s)
    (hQR : ∀ a s', Q a s' → R a s') : m.wp R s :=
  Outcome.wp.mono h fun r => hQR r.1 r.2

theorem wp_bind_of {m : Prog σ ε α} {f : α → Prog σ ε β} {P : α → σ → Prop} {Q : β → σ → Prop}
    {s : σ} (hm : m.wp P s) (hf : ∀ a s', P a s' → (f a).wp Q s') : (m >>= f).wp Q s := by
  rw [wp_bind]
  exact hm.mono hf

theorem ne_panic_of_wp {m : Prog σ ε α} {Q : α → σ → Prop} {s : σ} (h : m.wp Q s) (e : ε) :
    m s ≠ .panic e :=
  Outcome.ne_panic_of_wp h e

end Prog

/-! ### Runs cut short -/

/-- `o` is `o'`, or a panic: the order in which a run cut short by a panic lies below the run it
was cut from. -/
def Outcome.Approx (o o' : Outcome ε α) : Prop := o = o' ∨ ∃ e, o = .panic e

/-- An outcome that is no panic is the outcome it approximates. -/
theorem Outcome.Approx.eq_of_wp {o o' : Outcome ε α} {Q : α → Prop} (h : o.Approx o')
    (ho : o.wp Q) : o = o' := by
  rcases h with h | ⟨e, he⟩
  · exact h
  · exact absurd he (Outcome.ne_panic_of_wp ho e)

/-- `m` runs as `m'` does from every state, or panics. -/
def Prog.Approx (m m' : Prog σ ε α) : Prop := ∀ s, (m s).Approx (m' s)

namespace Prog

theorem Approx.refl (m : Prog σ ε α) : Approx m m := fun _ => .inl rfl

theorem approx_throw (e : ε) (m : Prog σ ε α) : Approx (throw e) m := fun _ => .inr ⟨e, rfl⟩

/-- Programs whose first statements and whose continuations approximate each other approximate
each other. -/
theorem Approx.bind {m m' : Prog σ ε α} {f f' : α → Prog σ ε β} (hm : Approx m m')
    (hf : ∀ a, Approx (f a) (f' a)) : Approx (m >>= f) (m' >>= f') := by
  intro s
  rw [bind_apply, bind_apply]
  rcases hm s with h | ⟨e, h⟩
  · rw [h]
    cases m' s with
    | ok p => exact hf p.1 p.2
    | panic e => exact .inl rfl
    | crash r => exact .inl rfl
  · rw [h]
    exact .inr ⟨e, rfl⟩

theorem Approx.ite {c : Prop} {d : Decidable c} {m₁ m₁' m₂ m₂' : Prog σ ε α}
    (h₁ : c → Approx m₁ m₁') (h₂ : ¬ c → Approx m₂ m₂') :
    Approx (@ite _ c d m₁ m₂) (@ite _ c d m₁' m₂') := by
  split
  · rename_i hc; exact h₁ hc
  · rename_i hc; exact h₂ hc


end Prog

end Go
