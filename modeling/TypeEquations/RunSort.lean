import TypeEquations.RunSort.Merge

/-!
# Sorting by runs

Stable sorting by a test that may fail. Which tests are made, and in which order, shows in the error, so
the algorithm is fixed: runs are found one after the other, short ones are extended by binary insertion,
and neighbouring runs are merged as a balanced tree over the whole list would have them.
-/

namespace TypeEquations

namespace RunSort

variable {α ε : Type} (less : α → α → Except ε Bool)

def runLength (falling : Bool) (previous : α) : List α → Except ε Nat
  | [] => .ok 0
  | next :: rest => do
    if (← less next previous) = falling then
      return (← runLength falling next rest) + 1
    else return 0

def splitRun : List α → Except ε (List α × List α)
  | first :: second :: rest => do
    let falling ← less second first
    let length ← runLength less falling second rest
    let run := first :: second :: rest.take length
    -- a falling run is strictly falling, so that turning it round keeps equal values in order
    return (if falling then run.reverse else run, rest.drop length)
  | values => .ok (values, [])

def insertSorted (sorted : List α) (value : α) : Except ε (List α) := do
  let place ← bisect (fun other => (less value other).map (!·)) false sorted 0 sorted.length
  return sorted.insertIdx place value

/-- The least length of a run, at most 64: short lists are one run, and long ones a little fewer runs
than a power of two. -/
def leastRun (count : Nat) : Nat :=
  let parts := Nat.pow 2 (count.log2 - 5)
  (count + parts - 1) / parts

def nextRun (least : Nat) (values : List α) : Except ε (List α × List α) := do
  let (run, rest) ← splitRun less values
  let missing := least - run.length
  let run ← (rest.take missing).foldlM (insertSorted less) run
  return (run, rest.drop missing)

structure Waiting (α : Type) where
  run : List α
  depth : Nat

/-- The first binary place in which the middles of two neighbouring runs differ, as fractions of the
whole. -/
def boundaryDepth (start first second count : Nat) : Nat :=
  let left := 2 * start + first
  let right := left + first + second
  ((List.range (count.log2 + 2)).find? fun depth =>
    left * Nat.pow 2 depth / count ≠ right * Nat.pow 2 depth / count).getD 0

structure Runs (α : Type) where
  last : List α
  waiting : List (Waiting α)
  patience : Nat

def mergeDeeper (depth patience : Nat) (last : List α) : List (Waiting α) → Except ε (Runs α)
  | [] => .ok ⟨last, [], patience⟩
  | before :: waiting => do
    if depth < before.depth then
      let (last, patience) ← merge less patience before.run last
      mergeDeeper depth patience last waiting
    else return ⟨last, before :: waiting, patience⟩

/-- Merges all runs, the nearest first; of three the shorter of the outer two takes part. -/
def mergeAll (patience : Nat) (last : List α) : List (Waiting α) → Except ε (List α)
  | [] => .ok last
  | [before] => (merge less patience before.run last).map (·.1)
  | before :: earlier :: waiting =>
    if earlier.run.length < last.length then
      match merge less patience earlier.run before.run with
      | .error error => .error error
      | .ok (run, patience) => mergeAll patience last (⟨run, earlier.depth⟩ :: waiting)
    else
      match merge less patience before.run last with
      | .error error => .error error
      | .ok (run, patience) => mergeAll patience run (earlier :: waiting)
termination_by waiting => waiting.length

def addRuns (count : Nat) : Nat → Runs α → List α → Except ε (List α)
  | 0, runs, _ => mergeAll less runs.patience runs.last runs.waiting
  | _ + 1, runs, [] => mergeAll less runs.patience runs.last runs.waiting
  -- each round takes a value off the rest at least
  | fuel + 1, runs, values => do
    let (run, rest) ← nextRun less (leastRun count) values
    let start := runs.waiting.foldr (fun before count => before.run.length + count) 0
    let depth := boundaryDepth start runs.last.length run.length count
    let merged ← mergeDeeper less depth runs.patience runs.last runs.waiting
    addRuns count fuel ⟨run, ⟨merged.last, depth⟩ :: merged.waiting, merged.patience⟩ rest

end RunSort

/-- Stable sorting by an order that need not be defined on all pairs. The first pair without an order
decides the error. -/
def runSort {α ε : Type} (less : α → α → Except ε Bool) (values : List α) : Except ε (List α) := do
  let (run, rest) ← RunSort.nextRun less (RunSort.leastRun values.length) values
  RunSort.addRuns less values.length rest.length ⟨run, [], RunSort.Merging.worthwhile⟩ rest

end TypeEquations
