import Mathlib.Logic.Relation
import SqlMapper.Proofs.Association
import SqlMapper.Property.Shape

/-!
# Which types can stand where another is declared

The supertypes of a type are found by a walk of limited depth. The limit loses
nothing: a chain of declarations that comes back to a type it has left can be
cut short there, and a chain without such returns leaves every known type at
most once. So being a subtype is being connected by declarations, whatever the
family is.

Being assignable is then reflexive and transitive for every family. It orders
two types in one way only unless declarations lead from a type back to itself.

## Main definitions

* `Family.Declares` — one step of the supertype relation.
* `Family.rank` — the number of known types that a type reaches.
* `Family.AcyclicAt`, `Shape.IsAcyclic` — no declarations lead from the object
  type in a value type, or from those of a shape's accessor methods, back to it.

## Main results

* `Family.isSubtype_iff` — subtypes are connected by declarations.
* `Family.rank_lt_of_declares` — a type that declarations do not lead back to
  outranks its supertypes.
* `Family.isAssignable_refl`, `Family.isAssignable_trans`,
  `Family.isAssignable_antisymm` — assignability is a partial order.
-/

namespace SqlMapper

open Relation (ReflTransGen TransGen)

/-- A chain of steps goes nowhere, or it has a first step after which it never
leaves its start again. -/
theorem eq_or_exists_of_reflTransGen {α : Type} {r : α → α → Prop} {a b : α}
    (h : ReflTransGen r a b) :
    a = b ∨ ∃ c, r a c ∧ ReflTransGen (fun x y => r x y ∧ x ≠ a) c b := by
  induction h with
  | refl => exact .inl rfl
  | @tail b c _ hstep ih =>
      by_cases hreturn : b = a
      · exact .inr ⟨c, hreturn ▸ hstep, .refl⟩
      · rcases ih with rfl | ⟨first, hfirst, hrest⟩
        · exact absurd rfl hreturn
        · exact .inr ⟨first, hfirst, hrest.tail ⟨hstep, hreturn⟩⟩

namespace Family

variable {family : Family} {type other parent : TypeName}

/-! ## Declarations -/

/-- The type declares the parent as a supertype. -/
def Declares (family : Family) (type parent : TypeName) : Prop :=
  parent ∈ (family.shape type).supertypes

/-- Only known types declare anything. -/
theorem Declares.known (h : family.Declares type other) : type ∈ family.shapes.keys := by
  unfold Declares Family.shape at h
  rw [← Entries.find?_isSome_iff]
  rcases hfind : family.shapes.find? type with _ | shape
  · rw [hfind] at h
    cases h
  · rfl

/-- What the walk finds is connected by declarations. -/
theorem connected_of_mem_lineageWithin {depth : Nat} (h : other ∈ family.lineageWithin depth type) :
    ReflTransGen family.Declares type other := by
  induction depth generalizing type with
  | zero =>
      obtain rfl := List.mem_singleton.mp h
      exact .refl
  | succ depth ih =>
      rcases List.mem_cons.mp h with rfl | habove
      · exact .refl
      · obtain ⟨parent, hparent, hmem⟩ := List.mem_flatMap.mp habove
        exact .head hparent (ih hmem)

/-- The walk finds what is connected by declarations of as many types as it may
take steps. A first step never leaves its type again, so one type less is left
for the rest of the chain. -/
theorem mem_lineageWithin_of_connected {depth : Nat} {declaring : List TypeName}
    (hdepth : declaring.length ≤ depth)
    (h : ReflTransGen (fun x y => family.Declares x y ∧ x ∈ declaring) type other) :
    other ∈ family.lineageWithin depth type := by
  induction depth generalizing type declaring with
  | zero =>
      obtain rfl := List.eq_nil_of_length_eq_zero (Nat.le_zero.mp hdepth)
      rcases eq_or_exists_of_reflTransGen h with rfl | ⟨parent, ⟨-, hmem⟩, -⟩
      · exact List.mem_singleton_self _
      · cases hmem
  | succ depth ih =>
      rcases eq_or_exists_of_reflTransGen h with rfl | ⟨parent, ⟨hparent, hmem⟩, hrest⟩
      · exact List.mem_cons_self
      · have hfewer : (declaring.filter (· ≠ type)).length < declaring.length :=
          List.length_filter_lt_length_iff_exists.mpr ⟨type, hmem, by simp⟩
        have hrest' : ReflTransGen
            (fun x y => family.Declares x y ∧ x ∈ declaring.filter (· ≠ type)) parent other :=
          hrest.lift id fun x y ⟨⟨hdeclares, hx⟩, hne⟩ =>
            ⟨hdeclares, List.mem_filter.mpr ⟨hx, decide_eq_true hne⟩⟩
        exact List.mem_cons_of_mem _
          (List.mem_flatMap.mpr ⟨parent, hparent, ih (by omega) hrest'⟩)

/-- Subtypes are connected by declarations. -/
theorem isSubtype_iff :
    family.isSubtype type other = true ↔ ReflTransGen family.Declares type other := by
  unfold isSubtype lineage
  rw [List.contains_iff_mem]
  constructor
  · exact connected_of_mem_lineageWithin
  · intro h
    have hlength : family.shapes.keys.length ≤ family.shapes.length := by simp [Entries.keys]
    exact mem_lineageWithin_of_connected hlength
      (h.lift id fun _ _ hdeclares => ⟨hdeclares, hdeclares.known⟩)

/-! ## Ranks -/

/-- Number of known types that the type reaches by declarations. -/
def rank (family : Family) (type : TypeName) : Nat :=
  (family.shapes.keys.filter (family.isSubtype type)).length

theorem rank_le (family : Family) (type : TypeName) : family.rank type ≤ family.shapes.length := by
  have hkeys : family.shapes.keys.length = family.shapes.length := List.length_map _
  exact hkeys ▸ List.length_filter_le _ _

/-- A type reaches what its supertypes reach, and itself, which they do not. -/
theorem rank_lt_of_declares (hacyclic : ¬ TransGen family.Declares type type)
    (h : family.Declares type parent) : family.rank parent < family.rank type := by
  have hreaches : family.shapes.keys.filter (family.isSubtype parent) =
      (family.shapes.keys.filter (family.isSubtype type)).filter (family.isSubtype parent) := by
    rw [List.filter_filter]
    refine List.filter_congr fun name _ => ?_
    rw [Bool.eq_iff_iff, Bool.and_eq_true, isSubtype_iff, isSubtype_iff]
    exact ⟨fun hup => ⟨hup, .head h hup⟩, And.left⟩
  have hself : type ∈ family.shapes.keys.filter (family.isSubtype type) :=
    List.mem_filter.mpr ⟨h.known, isSubtype_iff.mpr .refl⟩
  have hback : ¬ family.isSubtype parent type = true := fun hup =>
    hacyclic (.head' h (isSubtype_iff.mp hup))
  unfold rank
  rw [hreaches]
  exact List.length_filter_lt_length_iff_exists.mpr ⟨type, hself, hback⟩

/-! ## Assignability -/

section Assignability

variable {a b c : ValueType} {name : TypeName}

/-- Lists can stand where a list is declared, if their elements can. -/
theorem isAssignable_list_iff : family.isAssignable (.list a) c = true ↔
    ∃ b, c = .list b ∧ family.isAssignable a b = true := by
  cases c <;> simp [isAssignable]

/-- The instances of subtypes can stand where an object is declared. -/
theorem isAssignable_object_iff : family.isAssignable (.object name) c = true ↔
    ∃ other, c = .object other ∧ ReflTransGen family.Declares other name := by
  cases c <;> simp [isAssignable, isSubtype_iff]

/-- Only the universal type can take what it takes. -/
theorem isAssignable_any_iff : family.isAssignable a .any = true ↔ a = .any := by
  cases a <;> simp [isAssignable]

theorem isAssignable_refl (a : ValueType) : family.isAssignable a a = true := by
  induction a with
  | list a ih => exact isAssignable_list_iff.mpr ⟨a, rfl, ih⟩
  | object name => exact isAssignable_object_iff.mpr ⟨name, rfl, .refl⟩
  | _ => rfl

theorem isAssignable_trans (hab : family.isAssignable a b = true)
    (hbc : family.isAssignable b c = true) : family.isAssignable a c = true := by
  induction a generalizing b c with
  | any => rfl
  | list a ih =>
      obtain ⟨b, rfl, hab⟩ := isAssignable_list_iff.mp hab
      obtain ⟨c, rfl, hbc⟩ := isAssignable_list_iff.mp hbc
      exact isAssignable_list_iff.mpr ⟨c, rfl, ih hab hbc⟩
  | object name =>
      obtain ⟨middle, rfl, hupper⟩ := isAssignable_object_iff.mp hab
      obtain ⟨lowest, rfl, hlower⟩ := isAssignable_object_iff.mp hbc
      exact isAssignable_object_iff.mpr ⟨lowest, rfl, hlower.trans hupper⟩
  | _ =>
      obtain rfl := beq_iff_eq.mp hab
      exact hbc

/-- No declarations lead from the object type in the value type back to it. -/
def AcyclicAt (family : Family) : ValueType → Prop
  | .list element => family.AcyclicAt element
  | .object name => ¬ TransGen family.Declares name name
  | _ => True

/-- Two types that can stand for each other are equal, unless declarations lead
from one of them back to it. -/
theorem isAssignable_antisymm (hacyclic : family.AcyclicAt a)
    (hab : family.isAssignable a b = true) (hba : family.isAssignable b a = true) : a = b := by
  induction a generalizing b with
  | any => exact (isAssignable_any_iff.mp hba).symm
  | list a ih =>
      obtain ⟨b, rfl, hab⟩ := isAssignable_list_iff.mp hab
      obtain ⟨_, ⟨⟩, hba⟩ := isAssignable_list_iff.mp hba
      rw [ih hacyclic hab hba]
  | object name =>
      obtain ⟨other, rfl, hdown⟩ := isAssignable_object_iff.mp hab
      obtain ⟨_, ⟨⟩, hup⟩ := isAssignable_object_iff.mp hba
      rcases Relation.reflTransGen_iff_eq_or_transGen.mp hup with rfl | hup
      · rfl
      · exact absurd (hup.trans_left hdown) hacyclic
  | _ => exact beq_iff_eq.mp hab

end Assignability

/-- If every declaration leads to a type of lower rank, none leads back. -/
theorem acyclicAt_of_rank (rank : TypeName → Nat)
    (hrank : ∀ entry ∈ family.shapes, ∀ parent ∈ entry.2.supertypes, rank parent < rank entry.1)
    (type : ValueType) : family.AcyclicAt type := by
  have hstep (x y : TypeName) (h : family.Declares x y) : rank y < rank x := by
    unfold Declares Family.shape at h
    rcases hfind : family.shapes.find? x with _ | shape <;> rw [hfind] at h
    · cases h
    · exact hrank (x, shape) (Entries.mem_of_find? hfind) y h
  have hchain (x y : TypeName) (h : TransGen family.Declares x y) : rank y < rank x := by
    induction h with
    | single h => exact hstep _ _ h
    | tail _ h ih => exact Nat.lt_trans (hstep _ _ h) ih
  induction type with
  | list element ih => exact ih
  | object name => exact fun hback => Nat.lt_irrefl _ (hchain name name hback)
  | _ => trivial

end Family

/-- No declarations lead from an object type in an accessor method of the shape
back to it. -/
structure Shape.IsAcyclic (shape : Shape) (family : Family) : Prop where
  getters : ∀ method ∈ shape.getters, family.AcyclicAt method.type
  setters : ∀ method ∈ shape.setters, family.AcyclicAt method.type

end SqlMapper
