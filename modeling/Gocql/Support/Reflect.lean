/-!
# Support — Go values as reflection sees them

The codecs of composite values walk a value by its type with `reflect`: they ask a value for
its kind, its elements, its fields and whether it is nil, and they build new values of a type
with `reflect.New`, `reflect.Zero` and `reflect.MakeSlice`.  This library gives those types and
values, over any type `κ` of leaf types (the types a codec handles as a whole: integers,
strings, byte slices) and any type `ν` of leaf values.

* `GoType κ`: `interface{}`, pointers, slices, arrays, maps and structs (each field a name, its
  `cql` tag, and its type) over the leaves.
* `GoVal κ ν`: a value with its dynamic type; a nil pointer, slice or map is its own case.
* `GoType.zero`: `reflect.Zero`; `GoVal.deref`: the value behind a chain of pointers.
* `GoType.beq`, `GoVal.beq`: Go's `==` on types and on map keys.
-/

namespace Go

/-- A Go type: a leaf, `interface{}`, or one built from others.  A struct field is its name, its
`cql` tag (empty for none) and its type. -/
inductive GoType (κ : Type) where
  | leaf (k : κ)
  | iface
  | ptr (elem : GoType κ)
  | slice (elem : GoType κ)
  | array (len : Nat) (elem : GoType κ)
  | map (key elem : GoType κ)
  | struct (fields : List (List UInt8 × List UInt8 × GoType κ))
  deriving Repr

/-- A Go value.  `nil` is the nil `interface{}`; a pointer, slice or map keeps its element types,
so that a nil one still has its type; `unset` is the driver's `UnsetValue`. -/
inductive GoVal (κ ν : Type) where
  | leaf (v : ν)
  | unset
  | nil
  | ptr (elem : GoType κ) (target : Option (GoVal κ ν))
  | slice (elem : GoType κ) (elems : Option (List (GoVal κ ν)))
  | array (elem : GoType κ) (elems : List (GoVal κ ν))
  | map (key elem : GoType κ) (entries : Option (List (GoVal κ ν × GoVal κ ν)))
  | struct (fields : List (List UInt8 × List UInt8 × GoType κ)) (vals : List (GoVal κ ν))
  deriving Repr

variable {κ ν : Type}

/-! ### Type identity -/

mutual
/-- Go's identity of types. -/
def GoType.beq [DecidableEq κ] : GoType κ → GoType κ → Bool
  | .leaf a, .leaf b => decide (a = b)
  | .iface, .iface => true
  | .ptr a, .ptr b => GoType.beq a b
  | .slice a, .slice b => GoType.beq a b
  | .array n a, .array m b => decide (n = m) && GoType.beq a b
  | .map k v, .map k' v' => GoType.beq k k' && GoType.beq v v'
  | .struct fs, .struct gs => GoType.beqFields fs gs
  | _, _ => false

/-- Field by field: the same names, tags and types. -/
def GoType.beqFields [DecidableEq κ] :
    List (List UInt8 × List UInt8 × GoType κ) → List (List UInt8 × List UInt8 × GoType κ) → Bool
  | [], [] => true
  | (n, t, a) :: fs, (m, u, b) :: gs =>
      decide (n = m) && decide (t = u) && GoType.beq a b && GoType.beqFields fs gs
  | _, _ => false
end

mutual
theorem GoType.beq_self [DecidableEq κ] : ∀ t : GoType κ, GoType.beq t t = true
  | .leaf _ | .iface => by simp [GoType.beq]
  | .ptr t | .slice t | .array _ t => by simp [GoType.beq, GoType.beq_self t]
  | .map k v => by simp [GoType.beq, GoType.beq_self k, GoType.beq_self v]
  | .struct fs => by simp [GoType.beq, GoType.beqFields_self fs]

theorem GoType.beqFields_self [DecidableEq κ] :
    ∀ fs : List (List UInt8 × List UInt8 × GoType κ), GoType.beqFields fs fs = true
  | [] => rfl
  | (_, _, t) :: fs => by simp [GoType.beqFields, GoType.beq_self t, GoType.beqFields_self fs]
end

/-- `x` of type `s` can be stored where a `t` is (`Value.Set`): the types are identical, or the
place is an `interface{}`. -/
def GoType.assignable [DecidableEq κ] (s t : GoType κ) : Bool :=
  GoType.beq s t || GoType.beq t .iface

/-! ### Zero values and pointers -/

mutual
/-- `reflect.Zero`: nil for a pointer, slice, map or interface, the leaf's own zero, and zero
elements and fields. -/
def GoType.zero (z : κ → ν) : GoType κ → GoVal κ ν
  | .leaf k => .leaf (z k)
  | .iface => .nil
  | .ptr t => .ptr t none
  | .slice t => .slice t none
  | .array n t => .array t (List.replicate n (GoType.zero z t))
  | .map k v => .map k v none
  | .struct fs => .struct fs (GoType.zeroFields z fs)

/-- The zero value of each field. -/
def GoType.zeroFields (z : κ → ν) :
    List (List UInt8 × List UInt8 × GoType κ) → List (GoVal κ ν)
  | [] => []
  | (_, _, t) :: fs => GoType.zero z t :: GoType.zeroFields z fs
end

/-- The value behind a chain of pointers, as `Marshal` follows them: none at a nil pointer. -/
def GoVal.deref : GoVal κ ν → Option (GoVal κ ν)
  | .ptr _ none => none
  | .ptr _ (some v) => GoVal.deref v
  | v => some v

/-- A pointer is nil. -/
def GoVal.isNilPtr : GoVal κ ν → Bool
  | .ptr _ none => true
  | _ => false

/-- A nil pointer, slice or map. -/
def GoVal.isNilRef : GoVal κ ν → Bool
  | .ptr _ none | .slice _ none | .map _ _ none => true
  | _ => false

/-! ### Equality of map keys -/

mutual
/-- Go's `==` on the values a map is keyed by: leaves by value, structs field by field, arrays
element by element, interfaces by dynamic type and value.  Pointers compare by what they point
to here, and slices and maps, which Go cannot hash, element by element. -/
def GoVal.beq [DecidableEq κ] [DecidableEq ν] : GoVal κ ν → GoVal κ ν → Bool
  | .leaf a, .leaf b => decide (a = b)
  | .unset, .unset => true
  | .nil, .nil => true
  | .ptr s a, .ptr t b => GoType.beq s t && GoVal.beqOpt a b
  | .slice s a, .slice t b => GoType.beq s t && GoVal.beqOptList a b
  | .array s a, .array t b => GoType.beq s t && GoVal.beqList a b
  | .map k v a, .map k' v' b =>
      GoType.beq k k' && GoType.beq v v' && GoVal.beqOptEntries a b
  | .struct fs a, .struct gs b => GoType.beqFields fs gs && GoVal.beqList a b
  | _, _ => false

def GoVal.beqOpt [DecidableEq κ] [DecidableEq ν] :
    Option (GoVal κ ν) → Option (GoVal κ ν) → Bool
  | none, none => true
  | some a, some b => GoVal.beq a b
  | _, _ => false

def GoVal.beqList [DecidableEq κ] [DecidableEq ν] : List (GoVal κ ν) → List (GoVal κ ν) → Bool
  | [], [] => true
  | a :: as, b :: bs => GoVal.beq a b && GoVal.beqList as bs
  | _, _ => false

def GoVal.beqOptList [DecidableEq κ] [DecidableEq ν] :
    Option (List (GoVal κ ν)) → Option (List (GoVal κ ν)) → Bool
  | none, none => true
  | some a, some b => GoVal.beqList a b
  | _, _ => false

def GoVal.beqEntries [DecidableEq κ] [DecidableEq ν] :
    List (GoVal κ ν × GoVal κ ν) → List (GoVal κ ν × GoVal κ ν) → Bool
  | [], [] => true
  | (k, v) :: as, (k', v') :: bs => GoVal.beq k k' && GoVal.beq v v' && GoVal.beqEntries as bs
  | _, _ => false

def GoVal.beqOptEntries [DecidableEq κ] [DecidableEq ν] :
    Option (List (GoVal κ ν × GoVal κ ν)) → Option (List (GoVal κ ν × GoVal κ ν)) → Bool
  | none, none => true
  | some a, some b => GoVal.beqEntries a b
  | _, _ => false
end

end Go
