import QualityGate.Log.Pattern.Basic

namespace QualityGate.Log

inductive Automaton.State
  | take (s : CharSet) (next : Nat)
  | check (e : Edge) (next : Nat)
  /-- The first state is preferred to the second. -/
  | branch (first second : Nat)
  | complete
deriving DecidableEq, Repr

structure Automaton where
  states : List Automaton.State
  start : Nat
deriving DecidableEq, Repr

namespace Pattern

open Automaton (State)

def size : Pattern → Nat
  | empty => 0
  | one _ | edge _ => 1
  | seq p q => p.size + q.size
  | alt p q => 1 + p.size + q.size
  | optional _ p | repeated _ p => 1 + p.size
  | many _ p => 2 + p.size

def turn (greedy : Bool) (on out : Nat) : State :=
  if greedy then .branch on out else .branch out on

/-- The states of a pattern, with numbers from a base on, and the first of them. They lead to the
next state. A pattern for the empty text is not repeated in one place before what follows has been
tried. -/
def states (base next : Nat) : Pattern → List State × Nat
  | empty => ([], next)
  | one s => ([.take s next], base)
  | edge e => ([.check e next], base)
  | seq p q =>
    let (after, middle) := q.states (base + p.size) next
    let (before, start) := p.states base middle
    (before ++ after, start)
  | alt p q =>
    let (ps, first) := p.states (base + 1) next
    let (qs, second) := q.states (base + 1 + p.size) next
    (.branch first second :: ps ++ qs, base)
  | optional greedy p =>
    let (ps, first) := p.states (base + 1) next
    (turn greedy first next :: ps, base)
  | repeated greedy p =>
    let (ps, first) := p.states (base + 1) base
    (turn greedy first next :: ps, first)
  | many greedy p =>
    let (ps, first) := p.states (base + 2) base
    (turn greedy first next :: turn greedy first next :: ps,
      if p.isNullable then base + 1 else base)

def automaton (p : Pattern) : Automaton :=
  let (states, start) := p.states 1 0
  ⟨.complete :: states, start⟩

end Pattern

namespace Automaton

/-- The states that can be entered from a state without a character, after those that have been
entered at this place. A way without loops is no longer than the number of states. -/
def enter (a : Automaton) (holds : Edge → Bool) : Nat → List Nat → Nat → List Nat
  | 0, entered, _ => entered
  | fuel + 1, entered, n =>
    if entered.contains n then entered
    else
      let entered := entered ++ [n]
      match a.states[n]? with
      | some (.branch first second) =>
        a.enter holds fuel (a.enter holds fuel entered first) second
      | some (.check e next) => if holds e then a.enter holds fuel entered next else entered
      | _ => entered

def around (a : Automaton) (before after : Option Char) (ns : List Nat) : List Nat :=
  ns.foldl (a.enter (Edge.holds before after) (a.states.length + 1)) []

def following (a : Automaton) (c : Char) : List Nat → List Nat
  | [] => []
  | n :: ns =>
    match a.states[n]? with
    | some (.take s next) => if s.has c then next :: a.following c ns else a.following c ns
    | some .complete => []
    | _ => a.following c ns

def acceptsFrom (a : Automaton) (before : Option Char) : List Nat → List Char → Bool
  | ns, [] => (a.around before none ns).any fun n => a.states[n]? = some .complete
  | ns, c :: cs => a.acceptsFrom (some c) (a.following c (a.around before (some c) ns)) cs

end Automaton

def Pattern.fits (p : Pattern) (s : String) : Bool :=
  let a := p.automaton
  a.acceptsFrom none [a.start] s.toList

end QualityGate.Log
