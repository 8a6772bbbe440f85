import Mathlib.Data.List.Infix

/-!
# Support — Go's `strings` on bytes

Functions of Go's `strings` package over a string's bytes.  Every separator and pattern the
modelled code passes is ASCII, so a byte is a rune wherever the functions compare; the
whitespace of `TrimSpace` is the ASCII one.

`Replace` and `Split` step over a match by a count of bytes still to skip, so that their
recursion is on the string.  Both are for a nonempty pattern: with an empty one, Go's insert or
cut at every rune boundary, which no call here asks for.
-/

namespace Go.Strings

/-- `strings.Replace` from a position `skip` bytes inside a match. -/
def replaceFrom (old new : List UInt8) : Nat → List UInt8 → List UInt8
  | _, [] => []
  | k + 1, _ :: cs => replaceFrom old new k cs
  | 0, c :: cs =>
    if old.isPrefixOf (c :: cs) then new ++ replaceFrom old new (old.length - 1) cs
    else c :: replaceFrom old new 0 cs

/-- `strings.Replace(s, old, new, -1)`: every occurrence of `old`, left to right, none
overlapping another. -/
def replaceAll (s old new : List UInt8) : List UInt8 := replaceFrom old new 0 s

/-- `strings.Split` from a position `skip` bytes inside a separator, with the segment so far
reversed. -/
def splitFrom (sep : List UInt8) : Nat → List UInt8 → List UInt8 → List (List UInt8)
  | _, seg, [] => [seg.reverse]
  | k + 1, seg, _ :: cs => splitFrom sep k seg cs
  | 0, seg, c :: cs =>
    if sep.isPrefixOf (c :: cs) then seg.reverse :: splitFrom sep (sep.length - 1) [] cs
    else splitFrom sep 0 (c :: seg) cs

/-- `strings.Split(s, sep)`: the segments between the separators, the empty ones kept. -/
def split (s sep : List UInt8) : List (List UInt8) := splitFrom sep 0 [] s

/-- `strings.FieldsFunc(s, f)`: the maximal runs of bytes where `f` fails. -/
def fieldsFunc (s : List UInt8) (f : UInt8 → Bool) : List (List UInt8) :=
  (s.splitOnP f).filter fun field => !field.isEmpty

/-- `unicode.IsSpace` on an ASCII byte. -/
def isSpace (c : UInt8) : Bool := c == 9 || c == 10 || c == 11 || c == 12 || c == 13 || c == 32

/-- `strings.TrimSpace`. -/
def trimSpace (s : List UInt8) : List UInt8 := ((s.dropWhile isSpace).reverse.dropWhile isSpace).reverse

/-- `strings.Contains(s, substr)`. -/
def contains (s substr : List UInt8) : Bool := decide (substr <:+: s)

end Go.Strings
