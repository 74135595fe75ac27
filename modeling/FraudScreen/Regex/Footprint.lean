import FraudScreen.Regex.Basic
import FraudScreen.Text.Utf8
import Std.Data.HashMap

/-!
# The size of the machine for an expression

Expressions are refused when a machine for them would be too large: one that reads bytes and follows an
expression from its start to its end, or one that follows it backwards. A machine is a number of states and some
bytes more for the ways out of states that have several. Everything is laid out anew for each copy that a
repetition asks for. Sets of characters share the states that read the same bytes and lead to the same states,
as far as those are still remembered.
-/
namespace FraudScreen.Regex

open Text (CodeSet)
open Text.Utf8 (Sequence)

/-- The size of a machine. Its states are numbered as they are added. -/
structure Footprint where
  states : Nat
  /-- Bytes for ways out of states. -/
  ways : Nat
deriving DecidableEq, Repr

namespace Footprint

def bytes (f : Footprint) : Nat := 32 * f.states + f.ways

/-- Larger machines are refused. -/
def mostBytes : Nat := 10 * 1024 * 1024

def isTooLarge (f : Footprint) : Bool := mostBytes < f.bytes

/-- Adds states, and ways out of states with the number of bytes for them. -/
def add (f : Footprint) (states : Nat) (ways : Nat) : Footprint := ⟨f.states + states, f.ways + ways⟩

/-- Bytes for one way to a state without reading. -/
def jump : Nat := 4

/-- Bytes for one way to a state by reading a byte. -/
def reading : Nat := 8

/-! ## Remembered states -/

/-- States under what they do, in a table with a fixed number of slots: a later entry takes the slot of an
earlier one. -/
structure Memory (α : Type) where
  slots : Std.HashMap UInt64 (α × Nat)

/-- Mixes a number into a slot number. -/
def mix (h : UInt64) (n : Nat) : UInt64 := (h ^^^ n.toUInt64) * 1099511628211

/-- The slot for some numbers. -/
def slot (count : UInt64) (ns : List Nat) : UInt64 := ns.foldl mix 14695981039346656037 % count

/-- The state remembered in a slot for `key`. -/
def Memory.get? {α : Type} [BEq α] (m : Memory α) (slot : UInt64) (key : α) : Option Nat :=
  match m.slots[slot]? with
  | some (k, state) => if k == key then some state else none
  | none => none

def Memory.set {α : Type} (m : Memory α) (slot : UInt64) (key : α) (state : Nat) : Memory α :=
  ⟨m.slots.insert slot (key, state)⟩

/-! ## Sets, forwards -/

/-- The ways out of a state: an interval of bytes and the state after it. -/
abbrev Ways := List (Nat × Nat × Nat)

/-- A state that may still get more ways out; where the last of them leads is not known yet. -/
structure OpenState where
  ways : Ways
  last : Option (Nat × Nat)

/-- The last way out leads to the state `next`. -/
def OpenState.close (s : OpenState) (next : Nat) : Ways :=
  match s.last with
  | some (lo, hi) => s.ways ++ [(lo, hi, next)]
  | none => s.ways

/-- A machine with the states that it remembers. -/
structure Layout (α : Type) where
  footprint : Footprint
  memory : Memory α

/-- The state with some ways out, added if it is not remembered. -/
def place (ways : Ways) (l : Layout Ways) : Nat × Layout Ways :=
  let slot := slot 10000 (ways.flatMap fun (lo, hi, next) => [lo, hi, next])
  match l.memory.get? slot ways with
  | some state => (state, l)
  | none =>
    let state := l.footprint.states
    (state, ⟨l.footprint.add 1 (reading * ways.length), l.memory.set slot ways state⟩)

/-- Places all but the `kept` lowest of the open states, the highest first, and closes the highest one kept. -/
def settle (kept next : Nat) : List OpenState → Layout Ways → List OpenState × Layout Ways
  | [], l => ([], l)
  | top :: below, l =>
    if below.length < kept then (⟨top.close next, none⟩ :: below, l)
    else
      let (state, l) := place (top.close next) l
      settle kept state below l

/-- How many intervals a sequence has in common with what the open states, the lowest first, read last. -/
def sharedStart : Sequence → List OpenState → Nat
  | r :: rs, s :: ss => if s.last == some r then sharedStart rs ss + 1 else 0
  | _, _ => 0

/-- Opens states for the rest of a sequence on top of the highest open state. -/
def extend (rest : Sequence) : List OpenState → List OpenState
  | [] => []
  | top :: below =>
    match rest with
    | [] => top :: below
    | r :: rs => rs.foldl (fun stack r => ⟨[], some r⟩ :: stack) (⟨top.ways, some r⟩ :: below)

/-- Adds the states for sequences in ascending order that lead to the state `target`. -/
def addSequences (target : Nat) : List Sequence → List OpenState → Layout Ways → List OpenState × Layout Ways
  | [], stack, l => (stack, l)
  | q :: rest, stack, l =>
    let shared := sharedStart q stack.reverse
    let (stack, l) := settle (shared + 1) target stack l
    addSequences target rest (extend (q.drop shared) stack) l

/-- Adds a set that is read forwards. -/
def addForwards (qs : List Sequence) (f : Footprint) : Footprint :=
  let target := f.states
  let (stack, l) := addSequences target qs [⟨[], none⟩] ⟨f.add 1 0, ⟨{}⟩⟩
  let (stack, l) := settle 1 target stack l
  (place ((stack.head?.map (·.ways)).getD []) l).2.footprint

/-! ## Sets, backwards -/

/-- Adds states for the bytes of a sequence, the first of which leads to the state `next`. -/
def addReversed (next : Nat) : Sequence → Layout (Nat × Nat × Nat) → Layout (Nat × Nat × Nat)
  | [], l => l
  | (lo, hi) :: rest, l =>
    let slot := slot 1000 [next, lo, hi]
    match l.memory.get? slot (next, lo, hi) with
    | some state => addReversed state rest l
    | none =>
      let state := l.footprint.states
      addReversed state rest ⟨l.footprint.add 1 0, l.memory.set slot (next, lo, hi) state⟩

/-- Adds a set that is read backwards: a state with a way to each sequence, and one at which all end. -/
def addBackwards (qs : List Sequence) (f : Footprint) : Footprint :=
  let target := f.states + 1
  (qs.foldl (fun l q => addReversed target q { l with footprint := l.footprint.add 0 jump })
    ⟨f.add 2 0, ⟨{}⟩⟩).footprint

/-! ## Texts as alternatives -/

/-- The texts up to the first empty one, and those after it. -/
def untilEmpty : List (List Nat) → List (List Nat) × Option (List (List Nat))
  | [] => ([], none)
  | [] :: rest => ([], some rest)
  | t :: rest => let (run, more) := untilEmpty rest; (t :: run, more)

/-- The texts in runs, divided by the empty ones. -/
def runs : Nat → List (List Nat) → List (List (List Nat))
  | 0, _ => []
  | fuel + 1, ts =>
    match untilEmpty ts with
    | (run, none) => [run]
    | (run, some rest) => run :: runs fuel rest

/-- The texts with one of the empty ones that come before all others. -/
def withOneEmpty (ts : List (List Nat)) : List (List Nat) :=
  if ts.head?.any List.isEmpty then [] :: ts.dropWhile List.isEmpty else ts

/-- Adds a tree for texts of which some are not empty: a state with a way to each run of texts and to the end
after each run but the last, and for each run a state that reads the first byte of any of its texts. -/
def addTree : Nat → List (List Nat) → Footprint → Footprint
  | 0, _, f => f
  | fuel + 1, ts, f =>
    if ts.all List.isEmpty then f
    else
      let parts := runs (ts.length + 1) (withOneEmpty ts)
      let branching := f.add 1 (jump * ((parts.filter (!·.isEmpty)).length + (parts.length - 1)))
      parts.foldl (fun f run =>
        let heads := (run.filterMap List.head?).eraseDups
        let f := match heads.length with
          | 0 => f
          | 1 => f.add 1 0
          | n => f.add 1 (reading * n)
        heads.foldl (fun f b => addTree fuel ((run.filter (·.head? == some b)).map List.tail) f) f) branching

/-- Adds a choice between texts. -/
def addTexts (ts : List (List Nat)) (f : Footprint) : Footprint :=
  addTree ((ts.map List.length).foldl max 0 + 1) ts (f.add 1 0)

/-! ## Expressions -/

/-- The direction in which a machine follows an expression. Numbered groups are marked forwards only. -/
inductive Direction where
  | forwards
  | backwards
deriving DecidableEq, Repr

/-- Adds a set. ASCII characters are single bytes, which need no more than one state to read them. -/
def addSet (d : Direction) (s : CodeSet) : Footprint → Footprint :=
  if s.bounds.back?.all (· ≤ 0x80) then fun f => f.add 2 (reading * (s.bounds.size / 2))
  else
    let qs := Text.Utf8.sequences s
    match d with
    | .forwards => addForwards qs
    | .backwards => addBackwards qs

/-- Adds the same again and again, until the machine is too large. -/
def repeatedly (one : Footprint → Footprint) : Nat → Footprint → Footprint
  | 0, f => f
  | n + 1, f => if f.isTooLarge then f else repeatedly one n (one f)

/-- The bytes of a text. -/
def bytesOf (d : Direction) (cs : List Char) : List Nat :=
  let bs := cs.flatMap fun c => Text.Utf8.encode c.toNat
  match d with
  | .forwards => bs
  | .backwards => bs.reverse

/-- The texts of branches that are all texts. -/
def texts? (rs : List Regex) : Option (List (List Char)) :=
  rs.mapM fun
    | text cs => some cs
    | _ => none

/-- Joins the branch with the number `n`, the first one being 1: the second comes with a state from which all start
and one at which all end. Zero stands for no branch. -/
def join (n : Nat) (f : Footprint) : Footprint :=
  match n with
  | 0 | 1 => f
  | 2 => f.add 2 (2 * jump)
  | _ => f.add 0 jump

/-- Adds an expression; `branch` is its number if it is a branch of a choice, else zero. -/
def lay (d : Direction) : Regex → Nat → Footprint → Footprint
  | .empty, branch, f => join branch (f.add 1 0)
  | .text cs, branch, f => join branch (f.add (Text.byteLength cs) 0)
  | .set s, branch, f => join branch (addSet d s f)
  | .look _, branch, f => join branch (f.add 1 0)
  | .group r, branch, f =>
    join branch <| match d with
      | .forwards => (lay d r 0 (f.add 1 0)).add 1 0
      | .backwards => lay d r 0 f
  | .seq a b, branch, f =>
    join branch <| match d with
      | .forwards => lay d b 0 (lay d a 0 f)
      | .backwards => lay d a 0 (lay d b 0 f)
  | .alt a b, 0, f =>
    match texts? (branches (.alt a b)) with
    | some ts => addTexts (ts.map (bytesOf d)) f
    | none => lay d b 2 (lay d a 0 f)
  | .alt a b, branch + 1, f => lay d b (branch + 2) (join (branch + 1) (lay d a 0 f))
  | .many r least most _, branch, f =>
    let one : Footprint → Footprint :=
      match r with
      | .set s => addSet d s
      | _ => lay d r 0
    join branch <| match least, most with
      | 0, some 1 => (one (f.add 1 (2 * jump))).add 1 0
      | 0, none => if r.isNullable then (one f).add 3 (4 * jump) else one (f.add 1 (2 * jump))
      | least, none => (repeatedly one least f).add 1 (2 * jump)
      | least, some most =>
        if least = most then repeatedly one least f
        else
          let needed := if least = 0 then f.add 1 0 else repeatedly one least f
          repeatedly (fun f => one (f.add 1 (2 * jump))) (most - least) (needed.add 1 0)

/-- What comes before an expression: nothing much if it can only match at the edge of the text where the machine
starts, else a loop over all bytes. -/
def entrance (atEdge : Bool) : Footprint := if atEdge then ⟨1, 0⟩ else ⟨3, reading + 2 * jump⟩

/-- The machine that follows an expression from its start, with marks where the match starts and ends. -/
def ofForwards (r : Regex) : Footprint :=
  (lay .forwards r 0 ((entrance r.startsText).add 1 0)).add 2 0

/-- The machine that follows an expression from its end. -/
def ofBackwards (r : Regex) : Footprint := (lay .backwards r 0 (entrance r.endsText)).add 1 0

end Footprint

/-- Neither machine for the expression is too large. -/
def fits (r : Regex) : Bool :=
  !(Footprint.ofForwards r).isTooLarge && !(Footprint.ofBackwards r).isTooLarge

end FraudScreen.Regex
