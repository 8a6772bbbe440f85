import Gocql.Metadata.Compile
import Gocql.Support.Panic

/-!
# Metadata — the marshal-class type parser

`parseType` (`metadata.go`) reads a validator or comparator of the system tables, a
Cassandra marshal class such as
`org.apache.cassandra.db.marshal.MapType(org.apache.cassandra.db.marshal.UUIDType,...)`,
by recursive descent over its bytes (`parseClassNode`, `parseParamNodes`), then interprets the
tree (`typeParser.parse`, `typeParserClassNode.asTypeInfo`): a `CompositeType` gives one type
per parameter, a trailing `ColumnToCollectionType` the collections by their hex-decoded names,
and `ReversedType`, `ListType`, `SetType` and `MapType` take their parameters by index.  A
definition the descent rejects is a custom type.

The parser is a `Go.Prog` over `t.index`.  `t.input[t.index]` is `Go.index`, so reading past
the end is the run-time error it is in Go.  The descent is bounded by a fuel that each call and
each pass of the parameter loop spends; `NoFuel` is its only panic, as the source panics with
no value of its own, and `parseType` gives it twice the length of the input and one more, which
`Metadata.TypeParserFuel` proves enough.

* `parseType_malformed_panics`: `"a("` makes `parseParamNodes` read the byte past the end of the
  input, a `CompositeType` without parameters makes `parse` index them at `-1`, a `ListType`
  with no parameter makes `asTypeInfo` index an empty parameter list, and an unnamed parameter
  of a `ColumnToCollectionType` is dereferenced.
-/

namespace Gocql

/-! ### Deciding equality of type descriptions -/

mutual

/-- Equality of type descriptions, decided node by node, so that a parse can be checked by
evaluation. -/
def TypeInfo.decEq : (a b : TypeInfo) → Decidable (a = b)
  | .native n, .native n' => decidable_of_iff (n = n') (by simp)
  | .collection n k e, .collection n' k' e' =>
    match TypeInfo.decEqKey k k', TypeInfo.decEq e e' with
    | isTrue hk, isTrue he => decidable_of_iff (n = n') (by simp [hk, he])
    | isFalse hk, _ => isFalse (by simp [hk])
    | _, isFalse he => isFalse (by simp [he])
  | .tuple n es, .tuple n' es' =>
    match TypeInfo.decEqList es es' with
    | isTrue h => decidable_of_iff (n = n') (by simp [h])
    | isFalse h => isFalse (by simp [h])
  | .udt n ks nm fs, .udt n' ks' nm' fs' =>
    match TypeInfo.decEqFields fs fs' with
    | isTrue h => decidable_of_iff (n = n' ∧ ks = ks' ∧ nm = nm') (by simp [h])
    | isFalse h => isFalse (by simp [h])
  | .native _, .collection _ _ _ | .native _, .tuple _ _ | .native _, .udt _ _ _ _
  | .collection _ _ _, .native _ | .collection _ _ _, .tuple _ _ | .collection _ _ _, .udt _ _ _ _
  | .tuple _ _, .native _ | .tuple _ _, .collection _ _ _ | .tuple _ _, .udt _ _ _ _
  | .udt _ _ _ _, .native _ | .udt _ _ _ _, .collection _ _ _ | .udt _ _ _ _, .tuple _ _ =>
    isFalse (fun h => TypeInfo.noConfusion h)

def TypeInfo.decEqKey : (a b : Option TypeInfo) → Decidable (a = b)
  | none, none => isTrue rfl
  | some a, some b =>
    match TypeInfo.decEq a b with
    | isTrue h => isTrue (by rw [h])
    | isFalse h => isFalse (by simp [h])
  | none, some _ => isFalse (by simp)
  | some _, none => isFalse (by simp)

def TypeInfo.decEqList : (as bs : List TypeInfo) → Decidable (as = bs)
  | [], [] => isTrue rfl
  | a :: as, b :: bs =>
    match TypeInfo.decEq a b, TypeInfo.decEqList as bs with
    | isTrue h, isTrue h' => isTrue (by rw [h, h'])
    | isFalse h, _ => isFalse (by simp [h])
    | _, isFalse h' => isFalse (by simp [h'])
  | [], _ :: _ => isFalse (by simp)
  | _ :: _, [] => isFalse (by simp)

def TypeInfo.decEqFields : (as bs : List (List UInt8 × TypeInfo)) → Decidable (as = bs)
  | [], [] => isTrue rfl
  | (x, a) :: as, (y, b) :: bs =>
    match TypeInfo.decEq a b, TypeInfo.decEqFields as bs with
    | isTrue h, isTrue h' => decidable_of_iff (x = y) (by simp [h, h'])
    | isFalse h, _ => isFalse (by simp [h])
    | _, isFalse h' => isFalse (by simp [h'])
  | [], _ :: _ => isFalse (by simp)
  | _ :: _, [] => isFalse (by simp)

end

instance : DecidableEq TypeInfo := TypeInfo.decEq

deriving instance DecidableEq for TypeParserResult

end Gocql

namespace Gocql.TypeParser

open Go

/-- The descent ran out of fuel. -/
inductive NoFuel where
  | noFuel
  deriving DecidableEq, Repr

/-- The parser's methods: a function of `t.index`. -/
abbrev ParseM := Prog Nat NoFuel

/-- The byte of an ASCII character. -/
def charByte (c : Char) : UInt8 := UInt8.ofNat c.toNat

-- `"org.apache.cassandra.db.marshal.ReversedType"` and the others, each the package prefix
-- and the class name
def REVERSED_TYPE : List UInt8 := apacheCassandraTypePrefix ++ strBytes "ReversedType"
def COMPOSITE_TYPE : List UInt8 := apacheCassandraTypePrefix ++ strBytes "CompositeType"
def COLLECTION_TYPE : List UInt8 := apacheCassandraTypePrefix ++ strBytes "ColumnToCollectionType"
def LIST_TYPE : List UInt8 := apacheCassandraTypePrefix ++ strBytes "ListType"
def SET_TYPE : List UInt8 := apacheCassandraTypePrefix ++ strBytes "SetType"
def MAP_TYPE : List UInt8 := apacheCassandraTypePrefix ++ strBytes "MapType"

/-- `typeParserClassNode`: the class name, its parameters as `typeParserParamNode`s (the
parameter's name, nil when it has none, and its class), and the segment of the input that
defined it. -/
inductive ClassNode where
  | mk (name : List UInt8) (params : List (Option (List UInt8) × ClassNode)) (input : List UInt8)

namespace ClassNode

def name : ClassNode → List UInt8
  | mk name _ _ => name

def params : ClassNode → List (Option (List UInt8) × ClassNode)
  | mk _ params _ => params

end ClassNode

/-! ### The descent -/

def isWhitespaceChar (c : UInt8) : Bool :=
  c == charByte ' ' || c == charByte '\n' || c == charByte '\t'

def isIdentifierChar (c : UInt8) : Bool :=
  (c ≥ charByte '0' && c ≤ charByte '9') ||
    (c ≥ charByte 'a' && c ≤ charByte 'z') ||
    (c ≥ charByte 'A' && c ≤ charByte 'Z') ||
    c == charByte '-' ||
    c == charByte '+' ||
    c == charByte '.' ||
    c == charByte '_' ||
    c == charByte '&'

variable (input : List UInt8)

/-- `skipWhitespace`: past the whitespace at `t.index`. -/
def skipWhitespace : ParseM Unit := fun i =>
  .ok ((), i + ((input.drop i).takeWhile isWhitespaceChar).length)

/-- `nextIdentifier`: the identifier at `t.index`, or none when there is none. -/
def nextIdentifier : ParseM (Option (List UInt8)) := fun i =>
  let j := i + ((input.drop i).takeWhile isIdentifierChar).length
  if i = j then .ok (none, i) else .ok (some ((input.drop i).take (j - i)), j)

/-- `t.input[t.index]`. -/
def current : ParseM UInt8 := do
  let i ← Prog.get
  Prog.lift (index input i)

mutual

/-- `parseClassNode`: `CLASS := ID [ PARAMS ]`. -/
def parseClassNode : Nat → ParseM (Option ClassNode)
  | 0 => Prog.throw .noFuel
  | fuel + 1 => do
    skipWhitespace input
    let startIndex ← Prog.get
    match ← nextIdentifier input with
    | none => pure none
    | some name =>
      match ← parseParamNodes fuel with
      | none => pure none
      | some params =>
        let endIndex ← Prog.get
        pure (some (.mk name params ((input.drop startIndex).take (endIndex - startIndex))))

/-- `parseParamNodes`: `PARAMS := "(" PARAM { "," PARAM } ")"`, optional. -/
def parseParamNodes : Nat → ParseM (Option (List (Option (List UInt8) × ClassNode)))
  | 0 => Prog.throw .noFuel
  | fuel + 1 => do
    skipWhitespace input
    let i ← Prog.get
    -- the params are optional
    if i = input.length then pure (some [])
    else
      let c ← current input
      if c ≠ charByte '(' then pure (some [])
      else
        -- consume the '('
        Prog.set (i + 1)
        skipWhitespace input
        paramLoop fuel []

/-- The loop of `parseParamNodes` over `PARAM := [ PARAM_NAME ":" ] CLASS`, with the
parameters so far. -/
def paramLoop : Nat → List (Option (List UInt8) × ClassNode) →
    ParseM (Option (List (Option (List UInt8) × ClassNode)))
  | 0, _ => Prog.throw .noFuel
  | fuel + 1, params => do
    let c ← current input
    if c = charByte ')' then
      -- consume the ')'
      let i ← Prog.get
      Prog.set (i + 1)
      pure (some params)
    else
      -- look for a named param, but if no colon, then back up
      let backupIndex ← Prog.get
      match ← nextIdentifier input with
      | none => pure none
      | some name =>
        skipWhitespace input
        let c ← current input
        let hasName ← if c = charByte ':' then do
            let i ← Prog.get
            Prog.set (i + 1)
            skipWhitespace input
            pure true
          else do
            Prog.set backupIndex
            pure false
        match ← parseClassNode fuel with
        | none => pure none
        | some classNode =>
          let params := params ++ [(if hasName then some name else none, classNode)]
          skipWhitespace input
          let c ← current input
          if c = charByte ',' then do
            -- consume the comma
            let i ← Prog.get
            Prog.set (i + 1)
            skipWhitespace input
          paramLoop fuel params

end

/-! ### The interpretation -/

/-- `asTypeInfo`: a list, set or map of the types of its parameters, or the type a simple class
names, with the whole class definition as the name of a custom one. -/
def ClassNode.asTypeInfo : ClassNode → Outcome NoFuel TypeInfo
  | .mk name params input =>
    if LIST_TYPE.isPrefixOf name then
      match params with
      | (_, c) :: _ => do
        let elem ← c.asTypeInfo
        pure (.collection ⟨0, .list, []⟩ none elem)
      | [] => .crash (.indexOutOfRange 0 0)
    else if SET_TYPE.isPrefixOf name then
      match params with
      | (_, c) :: _ => do
        let elem ← c.asTypeInfo
        pure (.collection ⟨0, .set, []⟩ none elem)
      | [] => .crash (.indexOutOfRange 0 0)
    else if MAP_TYPE.isPrefixOf name then
      match params with
      | (_, k) :: (_, e) :: _ => do
        let key ← k.asTypeInfo
        let elem ← e.asTypeInfo
        pure (.collection ⟨0, .map, []⟩ (some key) elem)
      | [_] => .crash (.indexOutOfRange 1 1)
      | [] => .crash (.indexOutOfRange 0 0)
    else
      let typ := getApacheCassandraType name
      .ok (.native ⟨0, typ, if typ = .custom then input else []⟩)

/-- The value of a hex digit. -/
def fromHexChar (c : UInt8) : Option UInt8 :=
  if charByte '0' ≤ c ∧ c ≤ charByte '9' then some (c - charByte '0')
  else if charByte 'a' ≤ c ∧ c ≤ charByte 'f' then some (c - charByte 'a' + 10)
  else if charByte 'A' ≤ c ∧ c ≤ charByte 'F' then some (c - charByte 'A' + 10)
  else none

/-- `hex.DecodeString`, none on an odd length or a byte that is not a hex digit. -/
def decodeString : List UInt8 → Option (List UInt8)
  | [] => some []
  | [_] => none
  | a :: b :: rest => do
    let x ← fromHexChar a
    let y ← fromHexChar b
    let r ← decodeString rest
    pure ((x <<< 4 ||| y) :: r)

/-- `collections[name] = t`. -/
def setCollection (m : List (List UInt8 × TypeInfo)) (name : List UInt8) (t : TypeInfo) :
    List (List UInt8 × TypeInfo) :=
  (name, t) :: m.filter fun e => e.1 != name

/-- The class of a parameter, or of its first parameter under `ReversedType`, and whether it
was reversed. -/
def unreverse (cls : ClassNode) : Outcome NoFuel (ClassNode × Bool) :=
  if REVERSED_TYPE.isPrefixOf cls.name then do
    let p ← index cls.params 0
    pure (p.2, true)
  else pure (cls, false)

/-- `typeParser.parse`: interpret the tree `parseClassNode` read, or a custom type when it read
none. -/
def parse (fuel : Nat) : Outcome NoFuel TypeParserResult :=
  match parseClassNode input fuel 0 with
  | .panic e => .panic e
  | .crash r => .crash r
  | .ok (none, _) =>
    -- treat this is a custom type
    .ok ⟨false, [.native ⟨0, .custom, input⟩], [false], []⟩
  | .ok (some ast, _) =>
    if COMPOSITE_TYPE.isPrefixOf ast.name then do
      let count := ast.params.length
      -- look for a collections param
      let last ← index ast.params ((count : Int) - 1)
      let (count, collections) ←
        if COLLECTION_TYPE.isPrefixOf last.2.name then do
          let collections ← last.2.params.foldlM (fun m param => do
            let name ← deref param.1
            let name := (decodeString name).getD name
            let t ← param.2.asTypeInfo
            pure (setCollection m name t)) []
          pure (count - 1, collections)
        else pure (count, [])
      let typed ← (ast.params.take count).mapM fun param => do
        let (cls, reversed) ← unreverse param.2
        let t ← cls.asTypeInfo
        pure (t, reversed)
      pure ⟨true, typed.map Prod.fst, typed.map Prod.snd, collections⟩
    else do
      -- not composite, so one type
      let (cls, reversed) ← unreverse ast
      let t ← cls.asTypeInfo
      pure ⟨false, [t], [reversed], []⟩

end Gocql.TypeParser

namespace Gocql

/-- `parseType(def)`. -/
def parseType (typeDef : List UInt8) : Go.Outcome TypeParser.NoFuel TypeParserResult :=
  TypeParser.parse typeDef (2 * typeDef.length + 1)

open TypeParser in
/-- **Malformed definitions panic**: an unclosed parameter list makes `parseParamNodes` read
`t.input[t.index]` at the end of the input; a `CompositeType` without parameters makes `parse`
index its parameters at `-1`; a `ListType` without a parameter makes `asTypeInfo` index an empty
parameter list; an unnamed parameter of a `ColumnToCollectionType` makes `parse` dereference
its nil name. -/
theorem parseType_malformed_panics :
    parseType (strBytes "a(") = .crash (.indexOutOfRange 2 2) ∧
    parseType COMPOSITE_TYPE = .crash (.indexOutOfRange (-1) 0) ∧
    parseType LIST_TYPE = .crash (.indexOutOfRange 0 0) ∧
    parseType (COMPOSITE_TYPE ++ strBytes "(" ++ COLLECTION_TYPE ++ strBytes "(a))") =
      .crash .nilDereference := by
  refine ⟨?_, ?_, ?_, ?_⟩ <;> decide +kernel

end Gocql
