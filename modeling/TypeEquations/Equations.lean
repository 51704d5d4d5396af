import TypeEquations.Equation

/-!
# Lists of equations

The first equation for a variable is the one that counts.
-/

namespace TypeEquations

/-- Equations in order of precedence. -/
abbrev Equations := List Equation

namespace Equations

def lookup? (equations : Equations) (var : Int) : Option Equation :=
  equations.find? (·.var = var)

def leftVars (equations : Equations) : List Int :=
  ascending (equations.map (·.var))

def rightVars (equations : Equations) : List Nat :=
  ascending (equations.flatMap (·.rhs.occurrences))

def render (style : Style) (equations : Equations) : String :=
  "\n".intercalate (equations.map (·.render style))

def sort (equations : Equations) : Equations :=
  equations.mergeSort fun a b => (Ord.compare a b).isLE

def isResolved (equations : Equations) (type : Ty) : Bool :=
  type.occurrences.all fun id => equations.all (·.var ≠ id)

theorem lookup?_eq_none_iff {equations : Equations} {x : Int} :
    equations.lookup? x = none ↔ ∀ equation ∈ equations, equation.var ≠ x := by
  simp [lookup?]

theorem mem_of_lookup? {equations : Equations} {x : Int} {equation : Equation}
    (hfound : equations.lookup? x = some equation) : equation ∈ equations :=
  List.mem_of_find?_eq_some hfound

theorem var_of_lookup? {equations : Equations} {x : Int} {equation : Equation}
    (hfound : equations.lookup? x = some equation) : equation.var = x := by
  simpa using List.find?_some hfound

/-- Where every variable has at most one equation, each equation is the first for its variable. -/
theorem lookup?_var {equations : Equations} (hdistinct : (equations.map (·.var)).Nodup)
    {equation : Equation} (hmem : equation ∈ equations) :
    equations.lookup? equation.var = some equation := by
  induction equations with
  | nil => simp at hmem
  | cons first rest ih =>
    rw [List.map_cons, List.nodup_cons] at hdistinct
    rcases List.mem_cons.mp hmem with rfl | hrest
    · simp [lookup?]
    · have hne : first.var ≠ equation.var := fun heq =>
        hdistinct.1 (heq ▸ List.mem_map_of_mem hrest)
      have htail := ih hdistinct.2 hrest
      rw [lookup?, List.find?_cons_of_neg (by simpa using hne)]
      exact htail

theorem isResolved_iff {equations : Equations} {type : Ty} :
    equations.isResolved type = true ↔ ∀ x ∈ type.occurrences, equations.lookup? x = none := by
  simp [isResolved, lookup?_eq_none_iff]

end Equations

end TypeEquations
