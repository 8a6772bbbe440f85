import Gocql.Metadata.TypeParser
import Gocql.Support.Wp

/-!
# Metadata — the type parser's fuel is enough

The descent of `parseType` is bounded by a fuel that the Go code does not have: every call of
`parseClassNode` and `parseParamNodes` and every pass of the parameter loop spends one, and the
descent panics with `NoFuel` when there is none left.  `parseType` gives it twice the length of
the input and one more, and that is enough: no definition makes `parseType` run out
(`parseType_never_runs_out`), and any more fuel reads every definition the same
(`parse_eq_parseType`), so its outcome is the one of the unbounded recursion
(`parseType_fuel_enough`).

The measure is the bytes left after `t.index`.  A class read is an identifier, so it moves the
index forward (`ClassNodeSpec`); the parameter loop spends one fuel per pass and reads a class
in each pass that does not end it, so two fuel for each byte left carry every call
(`ParamNodesSpec`, `ParamLoopSpec`).  The three are proved together by induction on the fuel
(`descent_spec`), one step lemma per function with the other two at one fuel less as its
hypotheses.

* `skipWhitespace_wp`, `nextIdentifier_wp`, `current_wp`: the primitives keep the index
  within the input; an identifier moves it forward.
* `asTypeInfo_wp`, `unreverse_wp`: the interpretation has no panic of its own.
* `descent_approx`: with one fuel more, each function of the descent runs as before unless it
  had run out; a run that had not is then the same (`Outcome.Approx.eq_of_wp`).
-/

namespace Gocql.TypeParser

open Go Go.Prog

variable (input : List UInt8)

/-- An index the descent moved to from `i`: not back, and not past the end of the input. -/
def Within (i j : Nat) : Prop := i ≤ j ∧ j ≤ input.length

theorem Within.trans {i j k : Nat} (hij : Within input i j) (hjk : Within input j k) :
    Within input i k :=
  ⟨Nat.le_trans hij.1 hjk.1, hjk.2⟩

/-! ### The primitives -/

theorem skipWhitespace_wp {i : Nat} {Q : Unit → Nat → Prop} (hi : i ≤ input.length)
    (hQ : ∀ j, Within input i j → Q () j) : (skipWhitespace input).wp Q i := by
  have hle := (List.takeWhile_sublist isWhitespaceChar (l := input.drop i)).length_le
  rw [List.length_drop] at hle
  exact hQ _ ⟨Nat.le_add_right _ _, by omega⟩

/-- An identifier moves the index forward; none leaves it where it was. -/
theorem nextIdentifier_wp {i : Nat} {Q : Option (List UInt8) → Nat → Prop} (hi : i ≤ input.length)
    (hnone : Q none i) (hsome : ∀ name j, i < j → j ≤ input.length → Q (some name) j) :
    (nextIdentifier input).wp Q i := by
  have hle := (List.takeWhile_sublist isIdentifierChar (l := input.drop i)).length_le
  rw [List.length_drop] at hle
  unfold nextIdentifier Prog.wp
  dsimp only
  split
  · exact hnone
  · exact hsome _ _ (by omega) (by omega)

/-- `t.input[t.index]` returns only at an index inside the input, and leaves it. -/
theorem current_wp {i : Nat} {Q : UInt8 → Nat → Prop} (hQ : i < input.length → ∀ c, Q c i) :
    (current input).wp Q i := by
  rw [current, wp_bind, wp_get]
  exact wp_lift (Outcome.wp_index fun _ hlt c _ => hQ (by omega) c)

/-! ### The descent -/

/-- What `parseClassNode fuel` guarantees from every index it has the fuel for: it does not run
out, and it leaves an index within the input, past the start when it read a class. -/
def ClassNodeSpec (fuel : Nat) : Prop :=
  ∀ i, i ≤ input.length → 2 * (input.length - i) + 1 ≤ fuel →
    (parseClassNode input fuel).wp (fun r j => Within input i j ∧ (r.isSome → i < j)) i

/-- What `parseParamNodes fuel` guarantees from every index it has the fuel for. -/
def ParamNodesSpec (fuel : Nat) : Prop :=
  ∀ i, i ≤ input.length → 2 * (input.length - i) + 1 ≤ fuel →
    (parseParamNodes input fuel).wp (fun _ j => Within input i j) i

/-- What `paramLoop fuel` guarantees from every index it has the fuel for, with any parameters
before. -/
def ParamLoopSpec (fuel : Nat) : Prop :=
  ∀ params i, i ≤ input.length → 2 * (input.length - i) + 2 ≤ fuel →
    (paramLoop input fuel params).wp (fun _ j => Within input i j) i

theorem classNodeSpec_succ {fuel : Nat} (hP : ParamNodesSpec input fuel) :
    ClassNodeSpec input (fuel + 1) := by
  intro i hi hf
  rw [parseClassNode, wp_bind]
  refine skipWhitespace_wp input hi fun j ⟨hij, hjn⟩ => ?_
  rw [wp_bind, wp_get, wp_bind]
  refine nextIdentifier_wp input hjn ⟨⟨hij, hjn⟩, fun h => by cases h⟩ fun name k hjk hk => ?_
  -- an identifier: the parameters are read from past it, with the fuel one less
  rw [wp_bind]
  refine (hP k hk (by omega)).mono fun r m ⟨hkm, hmn⟩ => ?_
  cases r with
  | none => exact ⟨⟨by omega, hmn⟩, fun h => by cases h⟩
  | some params =>
    rw [wp_bind, wp_get, wp_pure]
    exact ⟨⟨by omega, hmn⟩, fun _ => by omega⟩

theorem paramNodesSpec_succ {fuel : Nat} (hL : ParamLoopSpec input fuel) :
    ParamNodesSpec input (fuel + 1) := by
  intro i hi hf
  rw [parseParamNodes, wp_bind]
  refine skipWhitespace_wp input hi fun j ⟨hij, hjn⟩ => ?_
  rw [wp_bind, wp_get, wp_ite]
  split
  · exact ⟨hij, hjn⟩
  · rw [wp_bind]
    refine current_wp input fun hjlt c => ?_
    rw [wp_ite]
    split
    · exact ⟨hij, hjn⟩
    · -- past the `(`: the loop from the first parameter, with the fuel one less
      rw [wp_bind, wp_set, wp_bind]
      refine skipWhitespace_wp input hjlt fun k ⟨hjk, hkn⟩ => ?_
      exact (hL [] k hkn (by omega)).mono fun _ m ⟨hkm, hmn⟩ => ⟨by omega, hmn⟩

theorem paramLoopSpec_succ {fuel : Nat} (hC : ClassNodeSpec input fuel)
    (hL : ParamLoopSpec input fuel) : ParamLoopSpec input (fuel + 1) := by
  intro params i hi hf
  rw [paramLoop, wp_bind]
  refine current_wp input fun hin c => ?_
  rw [wp_ite]
  split
  · -- the `)` that closes the list
    rw [wp_bind, wp_get, wp_bind, wp_set, wp_pure]
    exact ⟨Nat.le_succ i, hin⟩
  · rw [wp_bind, wp_get, wp_bind]
    refine nextIdentifier_wp input hi ⟨Nat.le_refl i, hi⟩ fun name j hij hjn => ?_
    rw [wp_bind]
    refine skipWhitespace_wp input hjn fun j' ⟨hjj', hj'n⟩ => ?_
    rw [wp_bind]
    refine current_wp input fun hj'lt _ => ?_
    -- the rest of the pass after the parameter's name, from an index `k` no further back than
    -- the start: the class, then an optional comma, then the next pass with a byte less
    lift_lets
    intro afterName
    have hafterName : ∀ hasName k, Within input i k →
        (afterName hasName).wp (fun _ j => Within input i j) k := by
      intro hasName k ⟨hik, hkn⟩
      simp only [afterName]
      rw [wp_bind]
      refine (hC k hkn (by omega)).mono fun r m ⟨⟨hkm, hmn⟩, hread⟩ => ?_
      cases r with
      | none => exact ⟨by omega, hmn⟩
      | some classNode =>
        have hkm' : k < m := hread rfl
        dsimp only
        rw [wp_bind]
        refine skipWhitespace_wp input hmn fun p ⟨hmp, hpn⟩ => ?_
        rw [wp_bind]
        refine current_wp input fun hplt _ => ?_
        have hnextPass : ∀ ps q, i < q → q ≤ input.length →
            (paramLoop input fuel ps).wp (fun _ j => Within input i j) q := fun ps q hiq hqn =>
          (hL ps q hqn (by omega)).mono fun _ r ⟨hqr, hrn⟩ => ⟨by omega, hrn⟩
        rw [wp_ite]
        split
        · rw [wp_bind, wp_get, wp_bind, wp_set, wp_bind]
          exact skipWhitespace_wp input hplt fun q ⟨_, hqn⟩ => hnextPass _ q (by omega) hqn
        · exact hnextPass _ p (by omega) hpn
    -- a named parameter goes on past the `:`, an unnamed one from the backup index
    rw [wp_ite]
    split
    · rw [wp_bind, wp_get, wp_bind, wp_set, wp_bind]
      refine skipWhitespace_wp input hj'lt fun k ⟨_, hkn⟩ => ?_
      rw [wp_bind, wp_pure]
      exact hafterName true k ⟨by omega, hkn⟩
    · rw [wp_bind, wp_set, wp_bind, wp_pure]
      exact hafterName false i ⟨Nat.le_refl i, hi⟩

/-- **The descent's fuel**: with two fuel for each byte left and one more, no function of the
descent runs out, and each leaves the index within the input. -/
theorem descent_spec : ∀ fuel,
    ClassNodeSpec input fuel ∧ ParamNodesSpec input fuel ∧ ParamLoopSpec input fuel
  | 0 => ⟨fun _ _ h => absurd h (by omega), fun _ _ h => absurd h (by omega),
      fun _ _ _ h => absurd h (by omega)⟩
  | fuel + 1 =>
    have ih := descent_spec fuel
    ⟨classNodeSpec_succ input ih.2.1, paramNodesSpec_succ input ih.2.2,
      paramLoopSpec_succ input ih.1 ih.2.2⟩

/-! ### The interpretation -/

/-- `asTypeInfo` has no panic of its own: it returns a type or fails at run time. -/
theorem asTypeInfo_wp : ∀ cls : ClassNode, cls.asTypeInfo.wp fun _ => True
  | .mk name params input => by
    rw [ClassNode.asTypeInfo.eq_def]
    dsimp only
    split_ifs
    · rcases params with _ | ⟨⟨_, c⟩, _⟩
      · trivial
      · exact Outcome.wp_bind_of (asTypeInfo_wp c) fun _ _ => trivial
    · rcases params with _ | ⟨⟨_, c⟩, _⟩
      · trivial
      · exact Outcome.wp_bind_of (asTypeInfo_wp c) fun _ _ => trivial
    · rcases params with _ | ⟨⟨_, k⟩, _ | ⟨⟨_, e⟩, _⟩⟩
      · trivial
      · trivial
      · exact Outcome.wp_bind_of (asTypeInfo_wp k) fun _ _ =>
          Outcome.wp_bind_of (asTypeInfo_wp e) fun _ _ => trivial
    all_goals trivial

theorem unreverse_wp (cls : ClassNode) : (unreverse cls).wp fun _ => True := by
  unfold unreverse
  split_ifs
  · exact Outcome.wp_bind_of (Outcome.wp_index fun _ _ _ _ => trivial) fun _ _ => trivial
  · trivial

/-- A parameter of a composite read as a type: `unreverse`, then `asTypeInfo`, neither of which
panics. -/
theorem unreverse_asTypeInfo_wp (cls : ClassNode) :
    (unreverse cls >>= fun r => r.1.asTypeInfo >>= fun t => pure (t, r.2)).wp fun _ => True :=
  Outcome.wp_bind_of (unreverse_wp cls) fun r _ =>
    Outcome.wp_bind_of (asTypeInfo_wp r.1) fun _ _ => trivial

theorem parse_wp {fuel : Nat} (hfuel : 2 * input.length + 1 ≤ fuel) :
    (parse input fuel).wp fun _ => True := by
  have hdescent := (descent_spec input fuel).1 0 (Nat.zero_le _) (by omega)
  unfold parse
  split
  · rename_i e he
    exact absurd he (ne_panic_of_wp hdescent e)
  · trivial
  · trivial
  · rename_i ast _ _
    split_ifs
    · -- a composite: the collections of its last parameter, then a type for each other one
      lift_lets
      intro count
      refine Outcome.wp_bind_of (Outcome.wp_index fun _ _ _ _ => trivial) fun last _ => ?_
      split
      on_goal 1 =>
        refine Outcome.wp_bind_of (Outcome.wp_foldlM (I := fun _ => True) (fun _ _ _ _ =>
          Outcome.wp_bind_of (Outcome.wp_deref fun _ _ => trivial) fun _ _ =>
            Outcome.wp_bind_of (asTypeInfo_wp _) fun _ _ => by trivial) trivial) fun _ _ => ?_
      -- with the last parameter or without it, the types of the others
      all_goals
        refine Outcome.wp_bind_of (P := fun _ => True) trivial fun x _ => ?_
        obtain ⟨_, _⟩ := x
        exact Outcome.wp_bind_of (Outcome.wp_mapM (P := fun _ => True) fun param _ =>
          unreverse_asTypeInfo_wp param.2) fun _ _ => trivial
    · exact Outcome.wp_bind_of (unreverse_wp ast) fun r _ =>
        Outcome.wp_bind_of (asTypeInfo_wp r.1) fun _ _ => trivial

/-! ### More fuel -/

theorem classNode_approx_succ {fuel : Nat}
    (hP : Approx (parseParamNodes input fuel) (parseParamNodes input (fuel + 1))) :
    Approx (parseClassNode input (fuel + 1)) (parseClassNode input (fuel + 2)) := by
  rw [parseClassNode, parseClassNode]
  refine (Approx.refl _).bind fun _ => (Approx.refl _).bind fun _ => (Approx.refl _).bind fun r => ?_
  rcases r with _ | name
  · exact Approx.refl _
  · exact hP.bind fun r => by rcases r with _ | params <;> exact Approx.refl _

theorem paramNodes_approx_succ {fuel : Nat}
    (hL : ∀ ps, Approx (paramLoop input fuel ps) (paramLoop input (fuel + 1) ps)) :
    Approx (parseParamNodes input (fuel + 1)) (parseParamNodes input (fuel + 2)) := by
  rw [parseParamNodes, parseParamNodes]
  refine (Approx.refl _).bind fun _ => (Approx.refl _).bind fun _ =>
    Approx.ite (fun _ => Approx.refl _) fun _ => ?_
  refine (Approx.refl _).bind fun _ => Approx.ite (fun _ => Approx.refl _) fun _ => ?_
  exact (Approx.refl _).bind fun _ => (Approx.refl _).bind fun _ => hL []

theorem paramLoop_approx_succ {fuel : Nat}
    (hC : Approx (parseClassNode input fuel) (parseClassNode input (fuel + 1)))
    (hL : ∀ ps, Approx (paramLoop input fuel ps) (paramLoop input (fuel + 1) ps))
    (params : List (Option (List UInt8) × ClassNode)) :
    Approx (paramLoop input (fuel + 1) params) (paramLoop input (fuel + 2) params) := by
  rw [paramLoop, paramLoop]
  refine (Approx.refl _).bind fun _ => Approx.ite (fun _ => Approx.refl _) fun _ => ?_
  refine (Approx.refl _).bind fun _ => (Approx.refl _).bind fun r => ?_
  rcases r with _ | name
  · exact Approx.refl _
  refine (Approx.refl _).bind fun _ => (Approx.refl _).bind fun _ => ?_
  -- the rest of the pass after the name, the same code on both sides but for the fuel
  lift_lets
  intro afterName afterName'
  have hafterName : ∀ b, Approx (afterName b) (afterName' b) := by
    intro b
    simp only [afterName, afterName']
    refine hC.bind fun r => ?_
    rcases r with _ | cls
    · exact Approx.refl _
    · refine (Approx.refl _).bind fun _ => (Approx.refl _).bind fun _ => ?_
      exact Approx.ite (fun _ => (Approx.refl _).bind fun _ => (Approx.refl _).bind fun _ =>
        (Approx.refl _).bind fun _ => hL _) fun _ => hL _
  exact Approx.ite (fun _ => (Approx.refl _).bind fun _ => (Approx.refl _).bind fun _ =>
    (Approx.refl _).bind fun _ => (Approx.refl _).bind hafterName)
    fun _ => (Approx.refl _).bind fun _ => (Approx.refl _).bind hafterName

/-- **One more fuel**: each function of the descent with one fuel more runs as it did, unless it
had run out. -/
theorem descent_approx : ∀ fuel,
    Approx (parseClassNode input fuel) (parseClassNode input (fuel + 1)) ∧
    Approx (parseParamNodes input fuel) (parseParamNodes input (fuel + 1)) ∧
    ∀ params, Approx (paramLoop input fuel params) (paramLoop input (fuel + 1) params)
  | 0 => ⟨approx_throw _ _, approx_throw _ _, fun _ => approx_throw _ _⟩
  | fuel + 1 =>
    have ih := descent_approx fuel
    ⟨classNode_approx_succ input ih.2.1, paramNodes_approx_succ input ih.2.2,
      paramLoop_approx_succ input ih.1 ih.2.2⟩

theorem parse_approx_succ (fuel : Nat) : (parse input fuel).Approx (parse input (fuel + 1)) := by
  unfold parse
  rcases (descent_approx input fuel).1 0 with h | ⟨e, h⟩
  · rw [h]
    exact .inl rfl
  · rw [h]
    exact .inr ⟨e, rfl⟩

end Gocql.TypeParser

namespace Gocql

/-- **`parseType` never runs out of fuel**: whatever the definition, the descent ends with the
fuel `parseType` gives it, so `parseType` returns or fails at run time as the Go function
does, and never panics with `NoFuel`. -/
theorem parseType_never_runs_out (typeDef : List UInt8) (e : TypeParser.NoFuel) :
    parseType typeDef ≠ .panic e :=
  Go.Outcome.ne_panic_of_wp (TypeParser.parse_wp typeDef (Nat.le_refl _)) e

/-- **More fuel changes nothing**: every fuel from the one `parseType` gives on reads every
definition as `parseType` does, so no bound on the recursion shows in its outcome. -/
theorem parse_eq_parseType (typeDef : List UInt8) :
    ∀ fuel, 2 * typeDef.length + 1 ≤ fuel → TypeParser.parse typeDef fuel = parseType typeDef := by
  intro fuel hfuel
  induction fuel, hfuel using Nat.le_induction with
  | base => rfl
  | succ fuel hfuel ih =>
    rw [← ih]
    exact ((TypeParser.parse_approx_succ typeDef fuel).eq_of_wp (TypeParser.parse_wp typeDef hfuel)).symm

/-- **The fuel of `parseType` is enough**: whatever the definition, `parseType` never panics
with `NoFuel`, and every larger fuel reads the definition as it does, so that its outcome is the
one of the unbounded recursion of the Go code. -/
theorem parseType_fuel_enough (typeDef : List UInt8) :
    (∀ e : TypeParser.NoFuel, parseType typeDef ≠ .panic e) ∧
      ∀ fuel, 2 * typeDef.length + 1 ≤ fuel → TypeParser.parse typeDef fuel = parseType typeDef :=
  ⟨parseType_never_runs_out typeDef, parse_eq_parseType typeDef⟩

theorem parseType_fuel_enough_ListType :
    2 * (TypeParser.LIST_TYPE ++ strBytes "(a)").length + 1 ≤ 200 ∧
      TypeParser.parse (TypeParser.LIST_TYPE ++ strBytes "(a)") 200 =
        parseType (TypeParser.LIST_TYPE ++ strBytes "(a)") :=
  ⟨by decide, (parseType_fuel_enough _).2 200 (by decide)⟩

end Gocql
