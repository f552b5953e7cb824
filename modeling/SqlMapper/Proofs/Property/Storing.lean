import SqlMapper.Proofs.Run
import SqlMapper.Property.Navigation

/-!
# Writing as a function of the value

A write along a path either succeeds and gives a changed value, or fails and
leaves the value as it was: every change is made on a copy that is stored as
the last step. So a write is a function from values to changed values or
faults, and this module gives that function.

## Main definitions

* `Value.storePath` — the value after a write, or why there is none.

## Main results

* `Value.storeSegments_cons_ok` — how a write along several segments goes.
* `Edit.applyTo_path`, `Edit.applyTo_path_cases` — the write at a path in place
  is that function, and how it can end.
-/

namespace SqlMapper

/-- The outcome of a change in place, and the value afterwards: the changed
value, or with a fault the value as it was. -/
def settle (outcome : Except Fault Value) (root : Value) : Except Fault Unit × Value :=
  match outcome with
  | .ok changed => (.ok (), changed)
  | .error fault => (.error fault, root)

namespace Value

variable (describe : Describe)

/-- The value with a named property written. -/
def storeProperty (root : Value) (name : String) (value : Value) : Except Fault Value :=
  match root with
  | .object type slots => do
      let setter ← (describe type).bind fun d => d.setter name
      return .object type (← setter.call.invoke type slots value)
  | .map entries => .ok (.map (Entries.insert name value entries))
  | .params entries => .ok (.params (Entries.put name value entries))
  | other => .error (.noSuchProperty .setter name other.label)

/-- The value with an indexed element written. -/
def storeElement (root : Value) (index : String) (value : Value) : Except Fault Value :=
  match root with
  | .list items => do return .list (items.set (← listPosition index items.length) value)
  | .map entries => .ok (.map (Entries.insert index value entries))
  | .params entries => .ok (.params (Entries.put index value entries))
  | other => .error (.reflection (.notIndexWritable index other.label))

/-- The value with one segment written. -/
def storeSegment (root : Value) (seg : Segment) (value : Value) : Except Fault Value :=
  match seg.index with
  | none => root.storeProperty describe seg.name value
  | some index =>
      if seg.name.isEmpty then root.storeElement index value
      else do
        let collection ← root.readProperty describe seg.name
        root.storeProperty describe seg.name (← collection.storeElement index value)

/-- The value with `value` written along the segments. -/
def storeSegments (root value : Value) (seg : Segment) : List Segment → Except Fault Value
  | [] => root.storeSegment describe seg value
  | next :: rest => do
      let head ← root.readSegment describe seg
      if head.isNull && value.isNull then return root
      else
        let head ← if head.isNull then Edit.freshSegment describe root seg else .ok head
        root.storeSegment describe seg (← storeSegments head value next rest)

/-- The value with `value` written at a path. -/
def storePath (root : Value) (path : String) (value : Value) : Except Fault Value :=
  root.storeSegments describe value (Path.ofString path).head (Path.ofString path).rest

variable {describe} in
/-- How a write along several segments succeeds: it is dropped, as `null` is
read where `null` is to be written, or what is read or created is changed and
stored back. -/
theorem storeSegments_cons_ok {root value changed : Value} {seg next : Segment}
    {rest : List Segment}
    (h : root.storeSegments describe value seg (next :: rest) = .ok changed) :
    root.readSegment describe seg = .ok null ∧ value = null ∧ changed = root ∨
      ∃ head child child', root.readSegment describe seg = .ok head ∧
        ¬(head.isNull && value.isNull) = true ∧
        (if head.isNull then Edit.freshSegment describe root seg else .ok head) = .ok child ∧
        child.storeSegments describe value next rest = .ok child' ∧
        root.storeSegment describe seg child' = .ok changed := by
  obtain ⟨head, hread, hwrite⟩ := exists_of_bind_ok h
  by_cases hdrop : (head.isNull && value.isNull) = true
  · rw [if_pos hdrop] at hwrite
    obtain ⟨hnull, hvalue⟩ := Bool.and_eq_true_iff.mp hdrop
    rw [isNull_iff.mp hnull] at hread
    exact .inl ⟨hread, isNull_iff.mp hvalue, (Except.ok.inj hwrite).symm⟩
  · rw [if_neg hdrop] at hwrite
    refine .inr ⟨head, ?_⟩
    by_cases hnull : head.isNull = true
    · rw [if_pos hnull] at hwrite
      obtain ⟨child, hchild, hrest⟩ := exists_of_bind_ok hwrite
      obtain ⟨child', hinner, hstore⟩ := exists_of_bind_ok hrest
      exact ⟨child, child', hread, hdrop, (if_pos hnull).trans hchild, hinner, hstore⟩
    · rw [if_neg hnull] at hwrite
      obtain ⟨child, hchild, hrest⟩ := exists_of_bind_ok hwrite
      obtain ⟨child', hinner, hstore⟩ := exists_of_bind_ok hrest
      exact ⟨child, child', hread, hdrop, (if_neg hnull).trans hchild, hinner, hstore⟩

end Value

/-! ## Changes in place -/

namespace Edit

variable {describe : Describe} {root : Value}

/-- A step that only computes, and then a change. -/
theorem run_lift_bind {α : Type} {outcome : Except Fault α} {f : α → Edit Unit}
    {g : α → Except Fault Value} (h : ∀ a, (f a).run root = settle (g a) root) :
    (liftM outcome >>= f : Edit Unit).run root = settle (outcome >>= g) root := by
  rcases outcome with fault | a
  · rfl
  · exact h a

theorem run_property (name : String) (value : Value) :
    (property describe name value).run root =
      settle (root.storeProperty describe name value) root := by
  rw [property, run_bind_of_ok (run_get root)]
  cases root with
  | object type slots =>
      refine run_lift_bind fun setter => ?_
      exact run_lift_bind (g := fun changed => .ok (Value.object type changed)) fun changed => rfl
  | _ => rfl

theorem run_element (index : String) (value : Value) :
    (element index value).run root = settle (root.storeElement index value) root := by
  rw [element, run_bind_of_ok (run_get root)]
  cases root with
  | list items =>
      exact run_lift_bind (g := fun position => .ok (Value.list (items.set position value)))
        fun position => rfl
  | _ => rfl

/-- A change of a copy, and then a change with the changed copy. -/
theorem run_onCopy_bind {copy : Value} {edit : Edit Unit} {outcome : Except Fault Value}
    {f : Value → Edit Unit} {g : Value → Except Fault Value}
    (hedit : edit.run copy = settle outcome copy)
    (h : ∀ changed, (f changed).run root = settle (g changed) root) :
    (onCopy copy edit >>= f).run root = settle (outcome >>= g) root := by
  have hcopy : (onCopy copy edit).run root = (outcome, root) := by
    unfold onCopy applyTo
    rw [hedit]
    rcases outcome with fault | changed <;> rfl
  rcases outcome with fault | changed
  · rw [run_bind_of_error hcopy]
    rfl
  · rw [run_bind_of_ok hcopy]
    exact h changed

theorem run_segment (seg : Segment) (value : Value) :
    (segment describe seg value).run root =
      settle (root.storeSegment describe seg value) root := by
  unfold segment Value.storeSegment
  rcases hindex : seg.index with _ | index
  · exact run_property seg.name value
  · dsimp only
    split
    · exact run_element index value
    · rw [run_bind_of_ok (run_get root)]
      refine run_lift_bind fun collection => ?_
      exact run_onCopy_bind (run_element index value) fun changed => run_property seg.name changed

theorem run_segments (value : Value) (seg : Segment) (rest : List Segment) :
    (segments describe value seg rest).run root =
      settle (root.storeSegments describe value seg rest) root := by
  induction rest generalizing root seg with
  | nil => exact run_segment seg value
  | cons next rest ih =>
      unfold segments Value.storeSegments
      rw [run_bind_of_ok (run_get root)]
      refine run_lift_bind fun head => ?_
      by_cases hdrop : (head.isNull && value.isNull) = true
      · rw [if_pos hdrop, if_pos hdrop]
        rfl
      · rw [if_neg hdrop, if_neg hdrop]
        by_cases hnull : head.isNull = true
        · rw [if_pos hnull, if_pos hnull]
          refine run_lift_bind fun fresh => ?_
          exact run_onCopy_bind (ih next) fun changed => run_segment seg changed
        · rw [if_neg hnull, if_neg hnull]
          show _ = settle (head.storeSegments describe value next rest >>= fun changed =>
            root.storeSegment describe seg changed) root
          exact run_onCopy_bind (ih next) fun changed => run_segment seg changed

/-- The write at a path either stores a changed value or fails and leaves the
value as it was. -/
theorem applyTo_path (path : String) (value : Value) :
    (Edit.path describe path value).applyTo root =
      settle (root.storePath describe path value) root :=
  run_segments value _ _

/-- The write at a path succeeds with the changed value, or it fails and leaves
the value as it was. -/
theorem applyTo_path_cases {path : String} {value left : Value} {outcome : Except Fault Unit}
    (h : (Edit.path describe path value).applyTo root = (outcome, left)) :
    outcome = .ok () ∧ root.storePath describe path value = .ok left ∨
      ∃ fault, outcome = .error fault ∧ left = root := by
  rw [applyTo_path] at h
  rcases hstore : root.storePath describe path value with fault | changed <;> rw [hstore] at h <;>
    cases h
  · exact .inr ⟨fault, rfl, rfl⟩
  · exact .inl ⟨rfl, rfl⟩

end Edit

end SqlMapper
