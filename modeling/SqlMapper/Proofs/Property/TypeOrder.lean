import Mathlib.Order.Defs.Unbundled
import SqlMapper.Proofs.Property.Assignability

/-!
# The order of types, and the search that decides it

Whether a type is above another one is asked of the lower type, and then in the same
way of each supertype that it declares, up to the first yes. Nothing remembers what
has been asked, so that the search need not end where declarations lead from a type
back to it.

Where none do, a type outranks the supertypes that it declares, and no rank exceeds the
number of known types. So no more questions than these are ever open at once, and the
search ends. It answers what the bounded walk of `Family.isSubtype` finds.

## Main definitions

* `Family.isSubtypeWithin`, `Family.isAssignableWithin` — the search, and the
  comparison of value types built on it, with at most so many open questions.
* `Family.OrdersTypes` — the searches end, and assignability is the partial order of
  the value types that the declarations generate.

## Main results

* `Family.isSubtypeWithin_eq`, `Family.isAssignableWithin_eq` — the searches end.
* `Family.ordersTypes` — families without declarations that lead back order types.
-/

namespace SqlMapper

open Relation (ReflTransGen)

/-- If every element has an answer, the search for a yes among them has one. -/
theorem anyM_eq_some {α : Type} {f : α → Option Bool} {p : α → Bool} {xs : List α}
    (h : ∀ x ∈ xs, f x = some (p x)) : xs.anyM f = some (xs.any p) := by
  induction xs with
  | nil => rfl
  | cons x xs ih =>
      obtain ⟨hx, hxs⟩ := List.forall_mem_cons.mp h
      rw [List.anyM_cons, hx, List.any_cons]
      cases p x
      · exact ih hxs
      · rfl

namespace Family

variable {family : Family} {type other parent : TypeName} {depth : Nat}

/-! ## The searches -/

/-- Whether `other` is a type or above it, asked of the type and then of the
supertypes that it declares, in turn and up to the first yes. There is no answer if
more than `depth` questions have to be open at once. -/
def isSubtypeWithin (family : Family) (other : TypeName) : Nat → TypeName → Option Bool
  | 0, _ => none
  | depth + 1, type =>
      if type = other then some true
      else (family.shape type).supertypes.anyM (family.isSubtypeWithin other depth)

/-- Whether a value of type `found` may be used where `declared` is declared: equal
types are told first, and object types by the search. -/
def isAssignableWithin (family : Family) (depth : Nat) (declared found : ValueType) :
    Option Bool :=
  if declared = found then some true
  else
    match declared, found with
    | .any, _ => some true
    | .list a, .list b => family.isAssignableWithin depth a b
    | .object a, .object b => family.isSubtypeWithin a depth b
    | _, _ => some false

/-! ## The searches end -/

/-- A type is a subtype of itself and of what is above the supertypes that it
declares. -/
theorem isSubtype_eq (family : Family) (type other : TypeName) : family.isSubtype type other =
    (decide (type = other) || (family.shape type).supertypes.any (family.isSubtype · other)) := by
  rw [Bool.eq_iff_iff, Bool.or_eq_true, decide_eq_true_iff, List.any_eq_true, isSubtype_iff,
    ReflTransGen.cases_head_iff]
  simp only [isSubtype_iff, Declares]

/-- The search for a supertype ends, since it asks types of lower rank only. -/
theorem isSubtypeWithin_eq (hacyclic : ∀ type, family.AcyclicAt type)
    (hdepth : family.rank type < depth) :
    family.isSubtypeWithin other depth type = some (family.isSubtype type other) := by
  induction depth generalizing type with
  | zero => omega
  | succ depth ih =>
      rw [isSubtypeWithin, isSubtype_eq]
      by_cases hsame : type = other
      · rw [if_pos hsame, decide_eq_true hsame, Bool.true_or]
      · rw [if_neg hsame, decide_eq_false hsame, Bool.false_or]
        refine anyM_eq_some fun parent hparent => ih ?_
        have hlower := rank_lt_of_declares (hacyclic (.object type)) hparent
        omega

theorem isAssignableWithin_self (type : ValueType) :
    family.isAssignableWithin depth type type = some true := by
  unfold isAssignableWithin
  exact if_pos rfl

/-- The comparison of value types ends. That equal types are told first changes no
answer. -/
theorem isAssignableWithin_eq (hacyclic : ∀ type, family.AcyclicAt type)
    (hdepth : family.shapes.length < depth) (declared found : ValueType) :
    family.isAssignableWithin depth declared found = some (family.isAssignable declared found) := by
  induction declared generalizing found with
  | list a ih =>
      by_cases heq : .list a = found
      · rw [← heq, isAssignableWithin_self, isAssignable_refl]
      · unfold isAssignableWithin
        rw [if_neg heq]
        cases found with
        | list b => exact ih b
        | _ => rfl
  | object a =>
      by_cases heq : .object a = found
      · rw [← heq, isAssignableWithin_self, isAssignable_refl]
      · unfold isAssignableWithin
        rw [if_neg heq]
        cases found with
        | object b => exact isSubtypeWithin_eq hacyclic (Nat.lt_of_le_of_lt (rank_le family b) hdepth)
        | _ => rfl
  | _ =>
      unfold isAssignableWithin
      cases found <;> rfl

/-! ## The order -/

/-- The declarations of the family order the types. -/
structure OrdersTypes (family : Family) : Prop where
  /-- The search for a supertype ends. -/
  search_ends : ∀ type other depth, family.shapes.length < depth →
    family.isSubtypeWithin other depth type = some (family.isSubtype type other)
  /-- It finds what declarations lead to, in any number of steps. -/
  isSubtype_iff : ∀ type other, family.isSubtype type other = true ↔
    ReflTransGen family.Declares type other
  /-- The comparison of value types ends. -/
  comparison_ends : ∀ declared found depth, family.shapes.length < depth →
    family.isAssignableWithin depth declared found = some (family.isAssignable declared found)
  partialOrder : IsPartialOrder ValueType fun found declared =>
    family.isAssignable declared found = true
  /-- The universal type is above every other one. -/
  any_top : ∀ found, family.isAssignable .any found = true
  /-- Lists are ordered as their elements are. -/
  list_covariant : ∀ declared found, family.isAssignable (.list declared) (.list found) =
    family.isAssignable declared found

/-- A family orders the types if no declarations lead from an object type back to
it. -/
theorem ordersTypes (hacyclic : ∀ type, family.AcyclicAt type) : family.OrdersTypes where
  search_ends type _ _ hdepth :=
    isSubtypeWithin_eq hacyclic (Nat.lt_of_le_of_lt (rank_le family type) hdepth)
  isSubtype_iff _ _ := isSubtype_iff
  comparison_ends declared found _ hdepth :=
    isAssignableWithin_eq hacyclic hdepth declared found
  partialOrder := {
    refl := isAssignable_refl
    trans := fun _ _ _ hlower hupper => isAssignable_trans hupper hlower
    antisymm := fun lower _ hlower hupper => isAssignable_antisymm (hacyclic lower) hupper hlower }
  any_top _ := rfl
  list_covariant _ _ := rfl

/-! ### A diamond of supertypes -/

/-- Amphibians are boats and cars, and both of these are vehicles. -/
def vehicles : Family where
  shapes := [
    ("Amphibian", { supertypes := ["Boat", "Car"] }),
    ("Boat", { supertypes := ["Vehicle"] }),
    ("Car", { supertypes := ["Vehicle"] })]

theorem acyclicAt_vehicles (type : ValueType) : vehicles.AcyclicAt type :=
  acyclicAt_of_rank
    (fun name => if name = "Amphibian" then 2 else if name = "Boat" ∨ name = "Car" then 1 else 0)
    (by decide) type

/-- The search for planes among amphibians asks all that is above them and says no.
Lists of amphibians can stand for lists of vehicles. -/
theorem ordersTypes_vehicles :
    (∀ type, vehicles.AcyclicAt type) ∧
    vehicles.isSubtypeWithin "Plane" 4 "Amphibian" = some false ∧
    ReflTransGen vehicles.Declares "Amphibian" "Vehicle" ∧
    vehicles.isAssignable (.list (.object "Vehicle")) (.list (.object "Amphibian")) = true := by
  have horders := ordersTypes acyclicAt_vehicles
  have hvehicle : vehicles.isSubtype "Amphibian" "Vehicle" = true := by decide +kernel
  refine ⟨acyclicAt_vehicles, ?_, (horders.isSubtype_iff _ _).mp hvehicle, ?_⟩
  · rw [horders.search_ends "Amphibian" "Plane" 4 (by decide)]
    decide +kernel
  · rw [horders.list_covariant]
    exact hvehicle

end Family

end SqlMapper
