import TypeEquations.RunSort.Gallop

/-!
# Merging two runs

Values are taken one by one while the runs take turns, and in strides when one of them wins often. A merge
goes forward, or backward from the ends of both runs, so that the shorter run is the one set aside.
-/

namespace TypeEquations.RunSort

/-- A merge under way: the values merged, the latest first, and what is left of the run set aside and of
the other one. The last value set aside comes behind all others. -/
structure Merging (α : Type) where
  merged : List α
  aside : List α
  other : List α

namespace Merging

variable {α ε : Type}

def isSettled (merging : Merging α) : Bool :=
  merging.other.isEmpty || merging.aside.length ≤ 1

def result (merging : Merging α) : List α :=
  merging.merged.reverse ++ merging.other ++ merging.aside

def takeAside (count : Nat) (merging : Merging α) : Merging α :=
  { merging with
    merged := (merging.aside.take count).reverse ++ merging.merged
    aside := merging.aside.drop count }

def takeOther (count : Nat) (merging : Merging α) : Merging α :=
  { merging with
    merged := (merging.other.take count).reverse ++ merging.merged
    other := merging.other.drop count }

variable (ahead : α → α → Except ε Bool)

/-- Takes values one by one until a run has won `patience` times in a row, or the rest is settled. -/
def alternate (patience : Nat) : Nat → Nat → Nat → Merging α → Except ε (Merging α)
  | 0, _, _, merging => .ok merging
  | fuel + 1, asideWins, otherWins, merging =>
    match merging.aside, merging.other with
    | a :: _, b :: _ => do
      if ← ahead b a then
        let merging := merging.takeOther 1
        if merging.isSettled || patience ≤ otherWins + 1 then return merging
        else alternate patience fuel 0 (otherWins + 1) merging
      else
        let merging := merging.takeAside 1
        if merging.isSettled || patience ≤ asideWins + 1 then return merging
        else alternate patience fuel (asideWins + 1) 0 merging
    | _, _ => .ok merging

def strideAside (backward : Bool) (merging : Merging α) : Except ε (Merging α × Nat) := do
  match merging.isSettled, merging.other with
  | false, b :: _ =>
    let count ← gallop (fun a => (ahead b a).map (!·)) backward merging.aside
    let merging := merging.takeAside count
    return (if merging.isSettled then merging else merging.takeOther 1, count)
  | _, _ => return (merging, 0)

def strideOther (backward : Bool) (merging : Merging α) : Except ε (Merging α × Nat) := do
  match merging.isSettled, merging.aside with
  | false, a :: _ =>
    let count ← gallop (fun b => ahead b a) backward merging.other
    let merging := merging.takeOther count
    return (if merging.isSettled then merging else merging.takeAside 1, count)
  | _, _ => return (merging, 0)

def strideBoth (backward : Bool) (merging : Merging α) : Except ε (Merging α × Nat) := do
  -- the run that was the earlier one has the first turn
  if backward then
    let (merging, others) ← strideOther ahead backward merging
    let (merging, asides) ← strideAside ahead backward merging
    return (merging, max others asides)
  else
    let (merging, asides) ← strideAside ahead backward merging
    let (merging, others) ← strideOther ahead backward merging
    return (merging, max others asides)

/-- The length from which on a stride was worth it, and the patience of a sort at its start. -/
def worthwhile : Nat := 7

/-- Takes values in strides while these are worth it, which lessens the patience; the end of it adds to
the patience. -/
def strideOn (backward : Bool) : Nat → Nat → Merging α → Except ε (Merging α × Nat)
  | 0, patience, merging => .ok (merging, patience)
  | fuel + 1, patience, merging => do
    let (merging, count) ← strideBoth ahead backward merging
    if merging.isSettled then return (merging, patience)
    else if worthwhile ≤ count then strideOn backward fuel (max 1 (patience - 1)) merging
    else return (merging, patience + 1)

def finish (backward : Bool) : Nat → Nat → Merging α → Except ε (List α × Nat)
  | 0, patience, merging => .ok (merging.result, patience)
  | fuel + 1, patience, merging => do
    let size := merging.aside.length + merging.other.length
    if merging.isSettled then return (merging.result, patience)
    let merging ← alternate ahead patience size 0 0 merging
    if merging.isSettled then return (merging.result, patience)
    let (merging, patience) ← strideOn ahead backward size patience merging
    finish backward fuel patience merging

def run (backward : Bool) (patience : Nat) (aside other : List α) : Except ε (List α × Nat) :=
  finish ahead backward (aside.length + other.length) patience (takeOther 1 ⟨[], aside, other⟩)

end Merging

/-- Merges two runs; of equal values those of the first come first. Values of the first run before all of
the second, and values of the second behind all of the first, stay where they are. -/
def merge {α ε : Type} (less : α → α → Except ε Bool) (patience : Nat) (first second : List α) :
    Except ε (List α × Nat) := do
  match second with
  | [] => return (first, patience)
  | least :: _ =>
    let start ← gallop (fun a => (less least a).map (!·)) false first
    let left := first.drop start
    match left.getLast? with
    | none => return (first ++ second, patience)
    | some greatest =>
      let tail ← gallop (fun b => (less b greatest).map (!·)) true second.reverse
      let right := second.take (second.length - tail)
      let (merged, patience) ←
        if right.isEmpty then pure (left, patience)
        else if left.length ≤ right.length then Merging.run less false patience left right
        else do
          let (merged, patience) ←
            Merging.run (fun a b => less b a) true patience right.reverse left.reverse
          pure (merged.reverse, patience)
      return (first.take start ++ merged ++ second.drop right.length, patience)

end TypeEquations.RunSort
