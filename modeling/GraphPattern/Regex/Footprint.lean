/-
How much an automaton takes.

A state takes 32 octets, besides what its arrows take.  The states of a set are
shared where what follows is the same: a table of limited size remembers them, in
which a new state displaces the one in its slot.  An expression is too big if its
automaton takes more than ten megabytes, read forwards or backwards.
-/
import GraphPattern.Regex.Layout

namespace GraphPattern

/-- How much of an automaton has been laid out: states, and octets that they hold
besides. -/
structure Footprint where
  states : Nat
  extra : Nat
deriving DecidableEq, Repr

namespace Footprint

def limit : Nat := 10485760

def octets (f : Footprint) : Nat := 32 * f.states + f.extra

def check (f : Footprint) : Option Footprint := if f.octets ≤ limit then some f else none

/-- Adds states, and octets that they hold besides. -/
def add (count extra : Nat) (f : Footprint) : Footprint := ⟨f.states + count, f.extra + extra⟩

end Footprint

/-- The states of a set while they are laid out, and those that are remembered: in
each slot what a state holds, and its number. -/
structure SharedStates where
  footprint : Footprint
  known : Array (Option (List Nat × Nat))

namespace SharedStates

/-- Mixes numbers into a hash. -/
def mix (h : UInt64) : List Nat → UInt64
  | [] => h
  | k :: ks => mix ((h ^^^ UInt64.ofNat k) * 1099511628211) ks

/-- The state that holds some numbers: one that is remembered, or a new one, with the
octets that it holds besides. -/
def state (numbers : List Nat) (extra : Nat) (s : SharedStates) : Nat × SharedStates :=
  let slot := (mix 14695981039346656037 numbers).toNat % s.known.size
  let held := (s.known[slot]?.join).filter fun held => held.1 = numbers
  match held with
  | some (_, number) => (number, s)
  | none =>
    let new := s.footprint.states
    (new, ⟨s.footprint.add 1 extra, s.known.setIfInBounds slot (some (numbers, new))⟩)

/-- Lays out a sequence of octets to be read from the back, from the state `target`
on. -/
def chain (target : Nat) : List OctetRange → SharedStates → SharedStates
  | [], s => s
  | o :: rest, s =>
    let (next, s) := s.state [target, o.first.toNat, o.last.toNat] 0
    s.chain next rest

/-- A node of the tree of sequences that is still open: its finished arrows, the
latest first, and the octets of the arrow to the next open node. -/
structure OpenNode where
  arrows : List (OctetRange × Nat)
  current : OctetRange

/-- Closes open nodes, each after those behind it, and says where the first of them
is.  The arrow of the last one leads to `target`. -/
def close (target : Nat) : List OpenNode → SharedStates → Nat × SharedStates
  | [], s => (target, s)
  | node :: deeper, s =>
    let (next, s) := close target deeper s
    let arrows := ((node.current, next) :: node.arrows).reverse
    s.state (arrows.flatMap fun a => [a.1.first.toNat, a.1.last.toNat, a.2])
      (8 * arrows.length)

/-- Adds a sequence to the open nodes.  What it does not share with the one before it
is closed first. -/
def insert (target : Nat) :
    List OctetRange → List OpenNode → SharedStates → List OpenNode × SharedStates
  | [], nodes, s => (nodes, s)
  | form, [], s => (form.map (OpenNode.mk []), s)
  | o :: rest, node :: deeper, s =>
    if node.current = o then
      let (deeper, s) := insert target rest deeper s
      (node :: deeper, s)
    else
      let (next, s) := close target deeper s
      (⟨(node.current, next) :: node.arrows, o⟩ :: rest.map (OpenNode.mk []), s)

end SharedStates

namespace Footprint

/-- Lays out the states of a set for reading backwards: a choice between its forms,
which all begin where the set ends. -/
def addChains (forms : List (List OctetRange)) (f : Footprint) : Footprint :=
  let target := f.states + 1
  let start : SharedStates := ⟨f.add 2 (4 * forms.length), Array.replicate 1000 none⟩
  (forms.foldl (fun s form => s.chain target form) start).footprint

/-- Lays out the states of a set for reading forwards: a tree of its forms. -/
def addTree (forms : List (List OctetRange)) (f : Footprint) : Footprint :=
  let target := f.states
  let (nodes, s) :=
    forms.foldl
      (fun (r : List SharedStates.OpenNode × SharedStates) form => r.2.insert target form r.1)
      ([], ⟨f.add 1 0, Array.replicate 10000 none⟩)
  (SharedStates.close target nodes s).2.footprint

/-- Repeats a step, up to the first time that it fails. -/
def repeatStep (step : Footprint → Option Footprint) : Nat → Footprint → Option Footprint
  | 0, f => some f
  | n + 1, f =>
    match step f with
    | none => none
    | some f => repeatStep step n f

end Footprint

namespace Layout

/-- The states of a layout and the octets that they hold besides, if they do not
depend on what has been laid out before. -/
def fixed? : Layout → Option (Nat × Nat)
  | states count extra => some (count, extra)
  | word octets => some (octets.length, 0)
  | set _ _ => none
  | both l m =>
    match l.fixed?, m.fixed? with
    | some a, some b => some (a.1 + b.1, a.2 + b.2)
    | _, _ => none
  | copies n l => l.fixed?.map fun a => (n * a.1, n * a.2)

/-- Lays out an automaton, unless it grows beyond the limit. -/
def run : Layout → Footprint → Option Footprint
  | states count extra, f => (f.add count extra).check
  | word octets, f => (f.add octets.length 0).check
  | set backward forms, f => (if backward then f.addChains forms else f.addTree forms).check
  | both l m, f => (l.run f).bind m.run
  | copies n l, f =>
    match l.fixed? with
    | some (count, extra) => (f.add (n * count) (n * extra)).check
    | none => Footprint.repeatStep l.run n f

end Layout

/-- Whether the automata of an expression take no more than they may. -/
def Regex.fits (r : Regex) : Bool :=
  [false, true].all fun backward => ((Layout.ofRegex backward r).run ⟨0, 0⟩).isSome

end GraphPattern
