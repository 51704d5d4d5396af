import Mathlib.Order.Lattice
import TypeEquations.RunSort.Gallop

/-!
# Searches in sorted runs

Where the values that pass a test stand before all others, halving and strides find the place where they end. The
searches are stated for a list as its two parts, so that the place found is the length of the first one; which parts
there are follows from the order of the keys.
-/

namespace TypeEquations

def Yields {ε α : Type} (x : Except ε α) (property : α → Prop) : Prop :=
  ∃ a, x = .ok a ∧ property a

namespace Yields

variable {ε α β : Type} {x : Except ε α} {f : α → Except ε β} {property : α → Prop} {property' : β → Prop}

theorem ok {a : α} (ha : property a) : Yields (.ok a : Except ε α) property :=
  ⟨a, rfl, ha⟩

theorem of_eq {a : α} (hx : x = .ok a) : Yields x (· = a) :=
  ⟨a, hx, rfl⟩

/-- What the first computation yields is all that the second one may rely on. -/
theorem bind (hx : Yields x property) (hf : ∀ a, property a → Yields (f a) property') :
    Yields (x >>= f) property' := by
  obtain ⟨a, rfl, ha⟩ := hx
  exact hf a ha

theorem of_eq_ok {a : α} (hx : Yields x property) (ha : x = .ok a) : property a := by
  obtain ⟨b, rfl, hb⟩ := hx
  cases ha
  exact hb

theorem ne_error {error : ε} (hx : Yields x property) : x ≠ .error error := by
  obtain ⟨a, rfl, -⟩ := hx
  exact nofun

theorem mono {weaker : α → Prop} (hx : Yields x property) (hweaker : ∀ a, property a → weaker a) :
    Yields x weaker := by
  obtain ⟨a, rfl, ha⟩ := hx
  exact ok (hweaker a ha)

end Yields

namespace RunSort

variable {α ε : Type} {before : α → Except ε Bool} {front back : List α} {i : Nat} {value : α}

structure Passing (before : α → Except ε Bool) (front back : List α) : Prop where
  front : ∀ a ∈ front, before a = .ok true
  back : ∀ a ∈ back, before a = .ok false

theorem Passing.before_eq (h : Passing before front back) (hvalue : (front ++ back)[i]? = some value) :
    before value = .ok (decide (i < front.length)) := by
  by_cases hi : i < front.length
  · rw [List.getElem?_append_left hi] at hvalue
    rw [h.front value (List.mem_of_getElem? hvalue), decide_eq_true hi]
  · rw [List.getElem?_append_right (Nat.le_of_not_lt hi)] at hvalue
    rw [h.back value (List.mem_of_getElem? hvalue), decide_eq_false hi]

theorem middle_lt (backward : Bool) {width : Nat} (hwidth : ¬width = 0) :
    (if backward then (width - 1) / 2 else width / 2) < width := by
  split <;> omega

/-- Halving finds the end of the values that pass, if it lies within the range. -/
theorem bisect_append (h : Passing before front back) (backward : Bool) (low width : Nat)
    (hlow : low ≤ front.length) (hhigh : front.length ≤ low + width)
    (hlength : low + width ≤ (front ++ back).length) :
    bisect before backward (front ++ back) low width = .ok front.length := by
  fun_induction bisect before backward (front ++ back) low width with
  | case1 low =>
    rw [Nat.add_zero] at hhigh
    rw [Nat.le_antisymm hlow hhigh]
  | case2 low width hwidth half hnone =>
    have hhalf : half < width := middle_lt backward hwidth
    rw [List.getElem?_eq_none_iff] at hnone
    omega
  | case3 low width hwidth half value hvalue error herror =>
    rw [h.before_eq hvalue] at herror
    cases herror
  | case4 low width hwidth half value hvalue hpasses ih =>
    have hhalf : half < width := middle_lt backward hwidth
    rw [h.before_eq hvalue, Except.ok.injEq, decide_eq_true_eq] at hpasses
    apply ih <;> omega
  | case5 low width hwidth half value hvalue hfails ih =>
    have hhalf : half < width := middle_lt backward hwidth
    rw [h.before_eq hvalue, Except.ok.injEq, decide_eq_false_iff_not] at hfails
    apply ih <;> omega

/-- The front ends behind the first of the two places, and not behind the second one. -/
theorem stride_append (h : Passing before front back) (fuel last next : Nat) (hlast : last < front.length)
    (hnext : last < next) :
    Yields (stride before (front ++ back) fuel last next) fun places =>
      places.1 < front.length ∧ front.length ≤ places.2 ∧ places.2 ≤ (front ++ back).length := by
  induction fuel generalizing last next with
  | zero => exact .ok ⟨hlast, by simp, Nat.le_refl _⟩
  | succ fuel ih =>
    rw [stride]
    split
    · exact .ok ⟨hlast, by simp, Nat.le_refl _⟩
    · rename_i value hvalue
      rw [h.before_eq hvalue]
      have hin : next < (front ++ back).length := (List.getElem?_eq_some_iff.mp hvalue).1
      by_cases hpasses : next < front.length
      · rw [decide_eq_true hpasses]
        exact ih next (2 * next + 1) hpasses (by omega)
      · rw [decide_eq_false hpasses]
        exact .ok ⟨hlast, Nat.le_of_not_lt hpasses, Nat.le_of_lt hin⟩

/-- **Galloping.** From either end, the values that pass are counted right. -/
theorem gallop_eq {values : List α} (hvalues : values = front ++ back) (h : Passing before front back)
    (backward : Bool) : gallop before backward values = .ok front.length := by
  subst hvalues
  unfold gallop
  split
  · rename_i hnil
    rw [(List.append_eq_nil_iff.mp hnil).1]
    rfl
  · rename_i first rest hvalues
    have hfirst : (front ++ back)[0]? = some first := by rw [hvalues, List.getElem?_cons_zero]
    rw [h.before_eq hfirst]
    by_cases hpasses : 0 < front.length
    · obtain ⟨⟨last, next⟩, hstride, hlast, hnext, hlength⟩ :=
        stride_append h (front ++ back).length 0 1 hpasses Nat.one_pos
      have hbisect : bisect before backward (front ++ back) (last + 1) (next - last - 1) = .ok front.length := by
        apply bisect_append h <;> omega
      rw [decide_eq_true hpasses, hstride]
      exact hbisect
    · rw [decide_eq_false hpasses, Nat.eq_zero_of_not_pos hpasses]
      rfl

/-! ### Values in order -/

/-- The test decides whether the key of the first value is less. -/
def Decides {α ε κ : Type} [LT κ] [DecidableLT κ] (p : α → Prop) (key : α → κ) (less : α → α → Except ε Bool) :
    Prop :=
  ∀ a b, p a → p b → less a b = .ok (decide (key a < key b))

structure Ordered {α κ : Type} [LE κ] (p : α → Prop) (key : α → κ) (values : List α) : Prop where
  all : ∀ a ∈ values, p a
  pairwise : values.Pairwise fun a b => key a ≤ key b

variable {κ : Type} [LinearOrder κ] {p : α → Prop} {key : α → κ} {xs ys : List α} {less : α → α → Except ε Bool}
  {b : α}

theorem ordered_nil : Ordered p key [] :=
  ⟨by simp, .nil⟩

theorem ordered_cons :
    Ordered p key (b :: xs) ↔ p b ∧ (∀ a ∈ xs, key b ≤ key a) ∧ Ordered p key xs := by
  constructor
  · intro h
    obtain ⟨hle, hxs⟩ := List.pairwise_cons.mp h.pairwise
    obtain ⟨hb, hpx⟩ := List.forall_mem_cons.mp h.all
    exact ⟨hb, hle, hpx, hxs⟩
  · rintro ⟨hb, hle, hxs⟩
    exact ⟨List.forall_mem_cons.mpr ⟨hb, hxs.all⟩, List.pairwise_cons.mpr ⟨hle, hxs.pairwise⟩⟩

theorem le_of_mem_cons (hordered : Ordered p key (b :: xs)) : ∀ a ∈ b :: xs, key b ≤ key a := by
  obtain ⟨-, hle, -⟩ := ordered_cons.mp hordered
  exact List.forall_mem_cons.mpr ⟨le_rfl, hle⟩

theorem ordered_append :
    Ordered p key (xs ++ ys) ↔
      Ordered p key xs ∧ Ordered p key ys ∧ ∀ a ∈ xs, ∀ b ∈ ys, key a ≤ key b := by
  constructor
  · intro h
    obtain ⟨hxs, hys, hle⟩ := List.pairwise_append.mp h.pairwise
    obtain ⟨hpx, hpy⟩ := List.forall_mem_append.mp h.all
    exact ⟨⟨hpx, hxs⟩, ⟨hpy, hys⟩, hle⟩
  · rintro ⟨hxs, hys, hle⟩
    exact ⟨List.forall_mem_append.mpr ⟨hxs.all, hys.all⟩,
      List.pairwise_append.mpr ⟨hxs.pairwise, hys.pairwise, hle⟩⟩

theorem ordered_reverse : Ordered p (OrderDual.toDual ∘ key) xs.reverse ↔ Ordered p key xs := by
  constructor
  · intro h
    exact ⟨fun a ha => h.all a (List.mem_reverse.mpr ha), List.pairwise_reverse.mp h.pairwise⟩
  · intro h
    exact ⟨fun a ha => h.all a (List.mem_reverse.mp ha), List.pairwise_reverse.mpr h.pairwise⟩

variable {values : List α} {passes : α → Bool}

/-- A test that lesser values pass as well splits off a front. -/
theorem exists_passing (hordered : Ordered p key values)
    (hpasses : ∀ a b, key a ≤ key b → passes b = true → passes a = true)
    (hbefore : ∀ a ∈ values, before a = .ok (passes a)) :
    ∃ front back, values = front ++ back ∧ Passing before front back ∧ (∀ a ∈ front, passes a = true) ∧
      ∀ a ∈ back, passes a = false := by
  induction values with
  | nil => exact ⟨[], [], rfl, ⟨by simp, by simp⟩, by simp, by simp⟩
  | cons first rest ih =>
    obtain ⟨-, hfirst, hrest⟩ := ordered_cons.mp hordered
    obtain ⟨hbeforeFirst, hbeforeRest⟩ := List.forall_mem_cons.mp hbefore
    cases hpass : passes first with
    | true =>
      obtain ⟨front, back, rfl, hpassing, hfront, hback⟩ := ih hrest hbeforeRest
      refine ⟨first :: front, back, rfl, ⟨?_, hpassing.back⟩, ?_, hback⟩
      · exact List.forall_mem_cons.mpr ⟨hpass ▸ hbeforeFirst, hpassing.front⟩
      · exact List.forall_mem_cons.mpr ⟨hpass, hfront⟩
    | false =>
      have hfails : ∀ a ∈ first :: rest, passes a = false := by
        rw [List.forall_mem_cons]
        refine ⟨hpass, fun a ha => ?_⟩
        by_contra hne
        simp [hpasses first a (hfirst a ha) (by simpa using hne)] at hpass
      exact ⟨[], first :: rest, rfl, ⟨by simp, fun a ha => hfails a ha ▸ hbefore a ha⟩, by simp, hfails⟩

/-- The values up to one stand before those above it. -/
theorem exists_not_above (hless : Decides p key less) (hordered : Ordered p key values) (hb : p b) :
    ∃ front back, values = front ++ back ∧ Passing (fun a => (less b a).map (!·)) front back ∧
      (∀ a ∈ front, key a ≤ key b) ∧ ∀ a ∈ back, key b < key a := by
  have hbefore : ∀ a ∈ values, (less b a).map (!·) = .ok (!decide (key b < key a)) := by
    intro a ha
    rw [hless b a hb (hordered.all a ha)]
    rfl
  have hpasses (x y : α) (hle : key x ≤ key y) :
      (!decide (key b < key y)) = true → (!decide (key b < key x)) = true := by
    simpa using fun hy => hle.trans hy
  obtain ⟨front, back, hvalues, hpassing, hfront, hback⟩ := exists_passing hordered hpasses hbefore
  exact ⟨front, back, hvalues, hpassing, by simpa using hfront, by simpa using hback⟩

/-- The values below one stand before those from it on. -/
theorem exists_below (hless : Decides p key less) (hordered : Ordered p key values) (hb : p b) :
    ∃ front back, values = front ++ back ∧ Passing (fun a => less a b) front back ∧
      (∀ a ∈ front, key a < key b) ∧ ∀ a ∈ back, key b ≤ key a := by
  have hbefore : ∀ a ∈ values, less a b = .ok (decide (key a < key b)) :=
    fun a ha => hless a b (hordered.all a ha) hb
  have hpasses (x y : α) (hle : key x ≤ key y) : decide (key y < key b) = true → decide (key x < key b) = true := by
    simpa using fun hy => hle.trans_lt hy
  obtain ⟨front, back, hvalues, hpassing, hfront, hback⟩ := exists_passing hordered hpasses hbefore
  exact ⟨front, back, hvalues, hpassing, by simpa using hfront, by simpa using hback⟩

end RunSort

end TypeEquations
