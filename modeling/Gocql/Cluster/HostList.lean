import Gocql.Cluster.Host
import Gocql.Support.Panic

/-!
# Cluster — the copy-on-write host list

`cowHostList` (`policies.go`) publishes a `[]*HostInfo` that the host selection policies read
without a lock; `add` and `remove` build a new slice under the mutex and publish it.  `add`
copies the hosts into a slice one longer, giving up at the first host `Equal` to the new one,
and puts the new host last.  `remove` keeps the hosts whose `ConnectAddress()` is not `Equal` to
the address, then reslices the result to `size-1` within its capacity `size`: when more than one
host matched, the slots past the hosts kept are the nil slots of `make`.

The published slice is a list of slots, a nil `*HostInfo` being `none`; reading the address of a
nil slot panics.  `ConnectAddress()` is the host's connect address, fixed.

* `ipEqual_self`, `ipEqual_comm`, `ipEqual_trans`: `net.IP.Equal` is an equivalence, so a host
  list with pairwise distinct addresses has at most one host at an address.
* `add_spec`, `remove_spec`: on such a list, `add` reports whether the address was new and then
  appends the host; `remove` reports whether the address was there and then publishes the list
  with that one host erased, with no nil slot.
* `cowHostList_runs`: every run of `add` and `remove` from the empty list publishes such a list,
  so the two specifications hold after any sequence of calls.
-/

namespace Gocql

open Go

/-! ### `net.IP.Equal` -/

theorem ipEqual_self (ip : List UInt8) : ipEqual ip ip = true := by
  simp [ipEqual]

theorem ipEqual_comm (a b : List UInt8) : ipEqual a b = ipEqual b a := by
  unfold ipEqual
  by_cases hab : a.length = b.length
  · rw [if_pos hab, if_pos hab.symm, Bool.beq_comm]
  · rw [if_neg hab, if_neg (Ne.symm hab)]
    by_cases h₁ : a.length = 4 ∧ b.length = 16
    · rw [if_pos h₁, if_neg (by omega), if_pos ⟨h₁.2, h₁.1⟩, Bool.beq_comm (a := a)]
    · rw [if_neg h₁]
      by_cases h₂ : a.length = 16 ∧ b.length = 4
      · rw [if_pos h₂, if_pos ⟨h₂.2, h₂.1⟩, Bool.beq_comm (a := b)]
      · rw [if_neg h₂, if_neg (by omega), if_neg (by omega)]

/-- An IPv4 address and its IPv6 form: the prefix, then the four bytes. -/
theorem ipEqual_v4_v6 {a x : List UInt8} (ha : a.length = 4) (hx : x.length = 16)
    (h : ipEqual a x = true) : x = v4InV6Prefix ++ a := by
  unfold ipEqual at h
  rw [if_neg (by omega), if_pos ⟨ha, hx⟩, Bool.and_eq_true, beq_iff_eq, beq_iff_eq] at h
  rw [← h.1, h.2, List.take_append_drop]

/-- The IPv6 form of an IPv4 address is equal to it. -/
theorem ipEqual_v4_prefix {a : List UInt8} (ha : a.length = 4) :
    ipEqual a (v4InV6Prefix ++ a) = true := by
  have h12 : v4InV6Prefix.length = 12 := rfl
  have hlen : (v4InV6Prefix ++ a).length = 16 := by rw [List.length_append, ha, h12]
  unfold ipEqual
  rw [if_neg (by omega), if_pos ⟨ha, hlen⟩, List.take_left' h12, List.drop_left' h12]
  simp

/-- Equal addresses of a length other than 4 and 16 are the same bytes. -/
theorem eq_of_ipEqual_of_length {a x : List UInt8} (h : ipEqual a x = true)
    (hl : a.length = x.length) : a = x := by
  unfold ipEqual at h
  rw [if_pos hl, beq_iff_eq] at h
  exact h

/-- **`net.IP.Equal` is transitive**: two addresses equal to a third are equal, whatever their
forms. -/
theorem ipEqual_trans {a b c : List UInt8} (hab : ipEqual a b = true) (hbc : ipEqual b c = true) :
    ipEqual a c = true := by
  -- `ipEqual` holds between equal lengths or a 4-byte and a 16-byte address
  have hlen : ∀ {x y : List UInt8}, ipEqual x y = true →
      x.length = y.length ∨ (x.length = 4 ∧ y.length = 16) ∨ (x.length = 16 ∧ y.length = 4) := by
    intro x y h
    unfold ipEqual at h
    split at h
    · exact .inl ‹_›
    · split at h
      · exact .inr (.inl ‹_›)
      · split at h
        · exact .inr (.inr ‹_›)
        · cases h
  rcases hlen hab with hl₁ | hl₁ | hl₁
  · rw [eq_of_ipEqual_of_length hab hl₁]; exact hbc
  · rcases hlen hbc with hl₂ | hl₂ | hl₂
    · rw [← eq_of_ipEqual_of_length hbc hl₂]; exact hab
    · omega
    · -- `a` and `c` are both the IPv4 tail of `b`
      have hb := ipEqual_v4_v6 hl₁.1 hl₁.2 hab
      have hc := ipEqual_v4_v6 hl₂.2 hl₂.1 (by rw [ipEqual_comm]; exact hbc)
      rw [hb] at hc
      rw [List.append_cancel_left hc]
      exact ipEqual_self c
  · rcases hlen hbc with hl₂ | hl₂ | hl₂
    · rw [← eq_of_ipEqual_of_length hbc hl₂]; exact hab
    · -- `a` and `c` are both the IPv6 form of `b`
      have ha := ipEqual_v4_v6 hl₁.2 hl₁.1 (by rw [ipEqual_comm]; exact hab)
      have hc := ipEqual_v4_v6 hl₂.1 hl₂.2 hbc
      rw [ha, hc]
      exact ipEqual_self _
    · omega

theorem HostInfo.equal_eq (h host : HostInfo) :
    h.equal host = ipEqual h.connectAddress host.connectAddress := by
  unfold HostInfo.equal
  by_cases heq : h = host
  · rw [heq, ipEqual_self]; simp
  · simp [heq]

/-! ### `add` and `remove` -/

/-- `l[i].ConnectAddress()`: a nil slot panics. -/
def connectAddressOf : Option HostInfo → Outcome Empty (List UInt8)
  | some h => pure h.connectAddress
  | none => .crash .nilDereference

/-- `host.Equal(l[i])`: a nil slot is not the host, and its address panics. -/
def equalSlot (host : HostInfo) : Option HostInfo → Outcome Empty Bool
  | some h => pure (host.equal h)
  | none => .crash .nilDereference

/-- The loop of `add`: the slots copied into `newL`, or none at the first host equal to
`host`. -/
def addLoop (host : HostInfo) : List (Option HostInfo) → Outcome Empty (Option (List (Option HostInfo)))
  | [] => pure (some [])
  | h :: l => do
    if ← equalSlot host h then pure none
    else do
      let rest ← addLoop host l
      pure (rest.map (h :: ·))

/-- `add(host)`: whether the host was added, and the slice published after. -/
def CowHostList.add (l : List (Option HostInfo)) (host : HostInfo) : Outcome Empty (Bool × List (Option HostInfo)) :=
  if l.length = 0 then pure (true, [some host])
  else do
    match ← addLoop host l with
    | none => pure (false, l)
    | some newL => pure (true, newL ++ [some host])

/-- The loop of `remove`: the slots whose address is not `ip`, and whether one was. -/
def removeLoop (ip : List UInt8) : List (Option HostInfo) → Outcome Empty (List (Option HostInfo) × Bool)
  | [] => pure ([], false)
  | h :: l => do
    let addr ← connectAddressOf h
    let (kept, found) ← removeLoop ip l
    if !ipEqual addr ip then pure (h :: kept, found) else pure (kept, true)

/-- `remove(ip)`: whether a host had the address, and the slice published after.
`newL[:size-1:size-1]` reslices the backing array of `make([]*HostInfo, 0, size)`: the hosts
kept, then the nil slots past them. -/
def CowHostList.remove (l : List (Option HostInfo)) (ip : List UInt8) : Outcome Empty (Bool × List (Option HostInfo)) :=
  if l.length = 0 then pure (false, l)
  else do
    let (newL, found) ← removeLoop ip l
    if !found then pure (false, l)
    else pure (true, (newL ++ List.replicate (l.length - newL.length) none).take (l.length - 1))

/-! ### On a list with distinct addresses -/

/-- No two hosts of the list have `Equal` addresses. -/
def Distinct (hs : List HostInfo) : Prop :=
  hs.Pairwise fun a b => ipEqual a.connectAddress b.connectAddress = false

theorem addLoop_spec (host : HostInfo) :
    ∀ hs : List HostInfo, addLoop host (hs.map some) =
      pure (if hs.any (fun h => ipEqual h.connectAddress host.connectAddress) then none
        else some (hs.map some))
  | [] => rfl
  | h :: hs => by
    rw [List.map_cons, addLoop, equalSlot, Outcome.pure_eq, Outcome.ok_bind, HostInfo.equal_eq,
      ipEqual_comm, List.any_cons]
    cases hh : ipEqual h.connectAddress host.connectAddress
    · rw [if_neg (by simp), addLoop_spec host hs, Outcome.pure_eq, Outcome.ok_bind, Bool.false_or]
      split <;> rfl
    · rw [if_pos rfl, Bool.true_or, if_pos rfl]

theorem removeLoop_spec (ip : List UInt8) :
    ∀ hs : List HostInfo, removeLoop ip (hs.map some) =
      pure ((hs.filter fun h => !ipEqual h.connectAddress ip).map some,
        hs.any fun h => ipEqual h.connectAddress ip)
  | [] => rfl
  | h :: hs => by
    rw [List.map_cons, removeLoop, connectAddressOf, Outcome.pure_eq, Outcome.ok_bind,
      removeLoop_spec ip hs, Outcome.pure_eq, Outcome.ok_bind, List.filter_cons, List.any_cons]
    cases ipEqual h.connectAddress ip <;> rfl

/-- On distinct addresses the hosts at an address are the one found there: the filter erases
exactly it. -/
theorem filter_eq_erase {h : HostInfo} {ip : List UInt8} (hip : ipEqual h.connectAddress ip = true) :
    ∀ {hs : List HostInfo}, Distinct hs → h ∈ hs →
      hs.filter (fun x => !ipEqual x.connectAddress ip) = hs.erase h
  | x :: xs, hd, hmem => by
    obtain ⟨hx, hxs⟩ := List.pairwise_cons.mp hd
    by_cases hxh : x = h
    · -- `h` goes, and every later host differs from `h`, so from `ip`
      subst hxh
      rw [List.erase_cons_head, List.filter_cons, hip, if_neg (by decide), List.filter_eq_self]
      intro y hy
      have hne := hx y hy
      rw [Bool.not_eq_true']
      cases hy' : ipEqual y.connectAddress ip
      · rfl
      · rw [ipEqual_trans hip (by rw [ipEqual_comm]; exact hy')] at hne
        cases hne
    · have hmem' : h ∈ xs := (List.mem_cons.mp hmem).resolve_left (Ne.symm hxh)
      have hxip : ipEqual x.connectAddress ip = false := by
        cases hxi : ipEqual x.connectAddress ip
        · rfl
        · have := hx h hmem'
          rw [ipEqual_trans hxi (by rw [ipEqual_comm]; exact hip)] at this
          exact this
      rw [List.erase_cons_tail (by simpa using hxh), List.filter_cons, hxip, Bool.not_false, if_pos rfl,
        filter_eq_erase hip hxs hmem']

/-- `find?` is the one host at the address. -/
theorem erase_find? {hs : List HostInfo} {ip : List UInt8} {h : HostInfo}
    (hfind : hs.find? (fun x => ipEqual x.connectAddress ip) = some h) :
    h ∈ hs ∧ ipEqual h.connectAddress ip = true := by
  have hip := List.find?_some hfind
  exact ⟨List.mem_of_find?_eq_some hfind, hip⟩

/-- **`add` on distinct addresses**: false and nothing published when the address is there,
else true and the host appended. -/
theorem add_spec (hs : List HostInfo) (host : HostInfo) :
    CowHostList.add (hs.map some) host =
      .ok (if hs.any (fun h => ipEqual h.connectAddress host.connectAddress) then (false, hs.map some)
        else (true, (hs ++ [host]).map some)) := by
  unfold CowHostList.add
  cases hs with
  | nil => rfl
  | cons h hs' =>
    rw [if_neg (by simp), addLoop_spec, Outcome.pure_eq, Outcome.ok_bind]
    by_cases hany : (h :: hs').any (fun h => ipEqual h.connectAddress host.connectAddress) = true
    · rw [if_pos hany, if_pos hany]
      rfl
    · rw [if_neg hany, if_neg hany, List.map_append]
      rfl

/-- **`remove` on distinct addresses**: true and the list with the host at the address erased,
no nil slot, when there is one; else false and nothing published. -/
theorem remove_spec {hs : List HostInfo} (hd : Distinct hs) (ip : List UInt8) :
    CowHostList.remove (hs.map some) ip =
      .ok (match hs.find? (fun h => ipEqual h.connectAddress ip) with
        | some h => (true, (hs.erase h).map some)
        | none => (false, hs.map some)) := by
  unfold CowHostList.remove
  split
  · case isTrue hnil =>
    rw [List.length_map, List.length_eq_zero_iff] at hnil
    subst hnil
    rfl
  · case isFalse hne =>
    rw [removeLoop_spec, Outcome.pure_eq, Outcome.ok_bind]
    cases hfind : hs.find? (fun h => ipEqual h.connectAddress ip) with
    | none =>
      have hany : (hs.any fun h => ipEqual h.connectAddress ip) = false := by
        rw [Bool.eq_false_iff, ne_eq, List.any_eq_true]
        rintro ⟨x, hx, hxip⟩
        exact List.find?_eq_none.mp hfind x hx (by rw [hxip])
      simp only [hany]
      rfl
    | some h =>
      obtain ⟨hmem, hip⟩ := erase_find? hfind
      have hany : (hs.any fun h => ipEqual h.connectAddress ip) = true :=
        List.any_eq_true.mpr ⟨h, hmem, hip⟩
      -- one host erased: the kept hosts fill the `size-1` slots exactly
      have hlen : (hs.erase h).length = hs.length - 1 := List.length_erase_of_mem hmem
      simp only [hany, Bool.not_true, Bool.false_eq_true, if_false, filter_eq_erase hip hd hmem,
        List.length_map, hlen]
      rw [List.take_append_of_le_length (by rw [List.length_map, hlen]),
        List.take_of_length_le (by rw [List.length_map, hlen])]
      rfl

theorem distinct_add {hs : List HostInfo} (hd : Distinct hs) {host : HostInfo}
    (hnew : hs.any (fun h => ipEqual h.connectAddress host.connectAddress) = false) :
    Distinct (hs ++ [host]) := by
  unfold Distinct
  rw [List.pairwise_append]
  refine ⟨hd, List.pairwise_singleton _ _, fun a ha b hb => ?_⟩
  rw [List.mem_singleton] at hb
  subst hb
  rw [Bool.eq_false_iff, ne_eq, List.any_eq_true] at hnew
  cases hab : ipEqual a.connectAddress b.connectAddress
  · rfl
  · exact absurd ⟨a, ha, hab⟩ hnew

theorem distinct_erase {hs : List HostInfo} (hd : Distinct hs) (h : HostInfo) :
    Distinct (hs.erase h) :=
  hd.sublist (List.erase_sublist)

/-! ### Runs -/

/-- A call on the list. -/
inductive HostListOp where
  | add (host : HostInfo)
  | remove (ip : List UInt8)

/-- One call, with what it returns and the slice published after. -/
def HostListOp.apply (l : List (Option HostInfo)) : HostListOp → Outcome Empty (Bool × List (Option HostInfo))
  | .add host => CowHostList.add l host
  | .remove ip => CowHostList.remove l ip

/-- Calls one after another, with what each returned. -/
def runHostList : List (Option HostInfo) → List HostListOp → Outcome Empty (List Bool × List (Option HostInfo))
  | l, [] => pure ([], l)
  | l, op :: ops => do
    let (b, l') ← op.apply l
    let (bs, l'') ← runHostList l' ops
    pure (b :: bs, l'')

/-- One call keeps the addresses distinct. -/
theorem apply_distinct {hs : List HostInfo} (hd : Distinct hs) (op : HostListOp) :
    ∃ b hs', op.apply (hs.map some) = .ok (b, hs'.map some) ∧ Distinct hs' := by
  cases op with
  | add host =>
    rw [HostListOp.apply, add_spec]
    cases hnew : hs.any (fun h => ipEqual h.connectAddress host.connectAddress)
    · exact ⟨true, hs ++ [host], rfl, distinct_add hd hnew⟩
    · exact ⟨false, hs, rfl, hd⟩
  | remove ip =>
    rw [HostListOp.apply, remove_spec hd]
    cases hs.find? (fun h => ipEqual h.connectAddress ip) with
    | none => exact ⟨false, hs, rfl, hd⟩
    | some h => exact ⟨true, hs.erase h, rfl, distinct_erase hd h⟩

/-- Every run from a list of distinct addresses publishes one. -/
theorem runHostList_distinct :
    ∀ (ops : List HostListOp) {hs : List HostInfo}, Distinct hs →
      ∃ bs hs', runHostList (hs.map some) ops = .ok (bs, hs'.map some) ∧ Distinct hs'
  | [], hs, hd => ⟨[], hs, rfl, hd⟩
  | op :: ops, hs, hd => by
    obtain ⟨b, hs₁, happly, hd₁⟩ := apply_distinct hd op
    obtain ⟨bs, hs₂, hrun, hd₂⟩ := runHostList_distinct ops hd₁
    refine ⟨b :: bs, hs₂, ?_, hd₂⟩
    rw [runHostList, happly, Outcome.ok_bind]
    dsimp only
    rw [hrun, Outcome.ok_bind]
    rfl

/-- **The copy-on-write host list after any calls.**  Every run of `add` and `remove` from the
empty list publishes hosts with pairwise distinct addresses and no nil slot, on which `add`
returns whether the address is new and then appends the host, and `remove` returns whether a
host has the address and then publishes the list with exactly that host erased. -/
theorem cowHostList_runs (ops : List HostListOp) :
    ∃ bs hs, runHostList [] ops = .ok (bs, hs.map some) ∧ Distinct hs ∧
      (∀ host, CowHostList.add (hs.map some) host =
        .ok (if hs.any (fun h => ipEqual h.connectAddress host.connectAddress) then (false, hs.map some)
          else (true, (hs ++ [host]).map some))) ∧
      (∀ ip, CowHostList.remove (hs.map some) ip =
        .ok (match hs.find? (fun h => ipEqual h.connectAddress ip) with
          | some h => (true, (hs.erase h).map some)
          | none => (false, hs.map some))) := by
  obtain ⟨bs, hs, hrun, hd⟩ := @runHostList_distinct ops [] List.Pairwise.nil
  exact ⟨bs, hs, hrun, hd, add_spec hs, remove_spec hd⟩

end Gocql
