import TypeEquations.Draft.Order
import TypeEquations.Log.Forward
import TypeEquations.Main
import TypeEquations.Proofs.Composition
import TypeEquations.Proofs.Derivation
import TypeEquations.Proofs.FilterText
import TypeEquations.Proofs.Isolation
import TypeEquations.Proofs.Leftmost
import TypeEquations.Proofs.Locality
import TypeEquations.Proofs.MergeTrace
import TypeEquations.Proofs.MergedLinks
import TypeEquations.Proofs.Redirecting
import TypeEquations.Proofs.Rendering
import TypeEquations.Proofs.Reporting
import TypeEquations.Proofs.Rewriting
import TypeEquations.Proofs.RoundTrip
import TypeEquations.Proofs.Sorting
import TypeEquations.Proofs.Symmetry
import TypeEquations.Proofs.Typesetting
import TypeEquations.Session
