import FraudScreen.Regex.Escape

/-!
# Classes in brackets

A class lists characters, ranges of them and other classes, and may combine what stands before an operator with
what stands after it. The depth of a class counts how classes, lists of several members and operations are
nested.
-/
namespace FraudScreen.Regex

open Text (CodeSet)

/-- How deep classes, groups and repetitions may be nested. -/
def deepest : Nat := 250

/-- The operations between sets in brackets. -/
inductive SetOp where
  | inter
  | diff
  | symmDiff

def SetOp.apply : SetOp → CodeSet → CodeSet → CodeSet
  | inter => CodeSet.inter
  | diff => CodeSet.diff
  | symmDiff => CodeSet.symmDiff

/-- A set with the depth of how it was written. -/
structure Class where
  set : CodeSet
  depth : Nat

/-- Members of a class side by side. -/
structure Members where
  set : CodeSet
  count : Nat
  /-- The greatest depth of a member. -/
  depth : Nat

namespace Members

def none : Members := ⟨.empty, 0, 0⟩

def add (m : Members) (c : Class) : Members := ⟨m.set.union c.set, m.count + 1, max m.depth c.depth⟩

/-- Several members are one deeper than each of them. -/
def toClass (m : Members) : Class := ⟨m.set, if m.count ≤ 1 then m.depth else m.depth + 1⟩

end Members

/-- What stands to the left of an operation, with the operation. -/
abbrev Pending := Option (SetOp × Class)

/-- Applies a pending operation. -/
def Flags.combine (f : Flags) (p : Pending) (c : Class) : Class :=
  match p with
  | some (op, left) => ⟨op.apply (f.fold left.set) (f.fold c.set), max left.depth c.depth + 1⟩
  | none => c

/-! ## Members -/

/-- One member of a class: a character or a set of them. Without Unicode the character must be an ASCII one. -/
def readMember (f : Flags) (cs : List Char) : Option (Escape × List Char) := do
  let (e, rest) ← match cs with
    | '\\' :: rest => readEscape f rest
    | c :: rest => some (.char c, rest)
    | [] => none
  match e with
  | .char c => if f.asciiOnly ∧ 128 ≤ c.toNat then none else some (e, rest)
  | .set _ => some (e, rest)
  | .look _ => none

/-- A range of characters that is not reversed. -/
def charRange? (low high : Escape) : Option CodeSet :=
  match low, high with
  | .char a, .char b => if a ≤ b then some ((CodeSet.range a.toNat b.toNat).inter scalars) else none
  | _, _ => none

/-- A member or a range of characters. A hyphen stands for itself before the end of the class and before another
hyphen. -/
def readRange (f : Flags) (cs : List Char) : Option (CodeSet × List Char) := do
  let (low, rest) ← readMember f cs
  let alone : CodeSet := match low with
    | .char c => .single c.toNat
    | .set s => s
    | .look _ => .empty
  match f.skip rest with
  | [] => none
  | '-' :: more =>
    if f.peek more = some ']' ∨ f.peek more = some '-' then some (alone, '-' :: more)
    else
      let (high, rest) ← readMember f (f.skip more)
      return (← charRange? low high, rest)
  | rest => some (alone, rest)

/-- An ASCII class in its own brackets, after the opening one: whether it is negated, its characters, and the
rest. -/
def readAsciiClass (cs : List Char) : Option (Bool × CodeSet × List Char) :=
  match cs with
  | ':' :: rest =>
    let (negated, rest) := match rest with
      | '^' :: more => (true, more)
      | _ => (false, rest)
    let name := rest.takeWhile (· != ':')
    match rest.drop name.length with
    | ':' :: ']' :: final => (asciiClass? (String.ofList name)).map (negated, ·, final)
    | _ => none
  | _ => none

/-- Passes over hyphens at the start of a class, which stand for themselves. -/
def leadingHyphens (f : Flags) : Nat → Members → List Char → Members × List Char
  | 0, m, cs => (m, cs)
  | fuel + 1, m, cs =>
    match cs with
    | '-' :: rest => leadingHyphens f fuel (m.add ⟨.single '-'.toNat, 0⟩) (f.skip rest)
    | _ => (m, cs)

/-- The start of a class after its bracket: whether it is negated, what it begins with, and the rest. A closing
bracket that comes first stands for itself. -/
def openClass (f : Flags) (cs : List Char) : Bool × Members × List Char :=
  let cs := f.skip cs
  let (negated, cs) := match cs with
    | '^' :: rest => (true, f.skip rest)
    | _ => (false, cs)
  let (m, cs) := leadingHyphens f cs.length .none cs
  match m.count, cs with
  | 0, ']' :: rest => (negated, m.add ⟨.single ']'.toNat, 0⟩, f.skip rest)
  | _, _ => (negated, m, cs)

/-! ## Classes -/

/-- The members of a class up to its closing bracket; `nesting` counts the brackets that are open. -/
def readClass (f : Flags) (negated : Bool) (nesting : Nat) :
    Nat → Pending → Members → List Char → Option (Class × List Char)
  | 0, _, _, _ => none
  | fuel + 1, pending, m, cs =>
    let operation (op : SetOp) (rest : List Char) :=
      readClass f negated nesting fuel (some (op, f.combine pending m.toClass)) .none rest
    match f.skip cs with
    | [] => none
    | ']' :: rest => do
      let c := f.combine pending m.toClass
      return (⟨← f.close? negated c.set, c.depth + 1⟩, rest)
    | '[' :: rest =>
      match readAsciiClass rest with
      | some (others, s, rest) => do
        readClass f negated nesting fuel pending (m.add ⟨← f.close? others s, 0⟩) rest
      | none =>
        if nesting < deepest then do
          let (inner, first, rest) := openClass f rest
          let (c, rest) ← readClass f inner (nesting + 1) fuel none first rest
          readClass f negated nesting fuel pending (m.add c) rest
        else none
    | '&' :: '&' :: rest => operation .inter rest
    | '-' :: '-' :: rest => operation .diff rest
    | '~' :: '~' :: rest => operation .symmDiff rest
    | cs => do
      let (s, rest) ← readRange f cs
      readClass f negated nesting fuel pending (m.add ⟨s, 0⟩) rest

/-- A class after its opening bracket. -/
def readBrackets (f : Flags) (cs : List Char) : Option (Class × List Char) :=
  let (negated, first, rest) := openClass f cs
  readClass f negated 1 (rest.length + 1) none first rest

end FraudScreen.Regex
