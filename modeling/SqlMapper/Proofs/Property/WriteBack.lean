import SqlMapper.Configuration.Assistant
import SqlMapper.Proofs.Property.PathTyping

/-!
# Paths that can be stored back

A write along a path reads a copy of every value on the way and stores it back, so
that all of them need a setter. Two questions are asked of a type before anything is
written. Whether a path can be written asks for the setter of every segment. The type
that a path is written as asks for the getters on the way and for the setter of the
last segment only.

So the second question is answered for more paths than the first: for those as well
that lead through a property without a setter. A result column takes its type from
the second one, and with it the path, although no row can ever be written along it.

## Main definitions

* `Descriptor.writesBack` — every segment before the last one has a setter.

## Main results

* `Descriptor.canWrite_iff` — what the one question asks beyond the other.
* `Descriptor.canWritePath_iff_pathWriteType_iff` — when the two agree on a path, and
  what that says about result columns.
-/

namespace SqlMapper

namespace Descriptor

variable (describe : Describe)

/-- Every segment before the last one has a setter, as far as the question for the
types of the getters goes. -/
def writesBack (d : Descriptor) (segment : Segment) : List Segment → Bool
  | [] => true
  | next :: rest =>
      d.hasSetter segment.name &&
        match d.step describe segment with
        | .ok child => child.writesBack next rest
        | .error _ => true

/-- Every segment of the path before the last one has a setter. -/
def writesBackPath (d : Descriptor) (path : String) : Bool :=
  let path := Path.ofString path
  d.writesBack describe path.head path.rest

section

variable {describe : Describe} {d : Descriptor} {seg next : Segment} {rest : List Segment}

theorem writesBack_cons {child : Descriptor} (hstep : d.step describe seg = .ok child) :
    d.writesBack describe seg (next :: rest) = true ↔
      d.hasSetter seg.name = true ∧ child.writesBack describe next rest = true := by
  rw [writesBack, hstep, Bool.and_eq_true]

theorem exists_writeType_cons : (∃ type, d.writeType describe seg (next :: rest) = .ok type) ↔
    ∃ child, d.step describe seg = .ok child ∧
      ∃ type, child.writeType describe next rest = .ok type := by
  rw [writeType]
  rcases d.step describe seg with fault | child
  · exact ⟨nofun, nofun⟩
  · exact ⟨fun h => ⟨child, rfl, h⟩, fun ⟨_, hchild, h⟩ => Except.ok.inj hchild ▸ h⟩

theorem exists_setterType_iff {property : String} :
    (∃ type, d.setterType property = .ok type) ↔ d.hasSetter property = true := by
  rw [hasSetter_iff, setterType]
  rcases d.setter property with fault | accessor
  · exact ⟨nofun, nofun⟩
  · exact ⟨fun _ => ⟨accessor, rfl⟩, fun _ => ⟨accessor.type, rfl⟩⟩

/-- Segments can be written if they have a type that they are written as, and all
but the last one can be stored back. -/
theorem canWrite_iff : d.canWrite describe seg rest = true ↔
    (∃ type, d.writeType describe seg rest = .ok type) ∧
      d.writesBack describe seg rest = true := by
  induction rest generalizing d seg with
  | nil =>
      show d.hasSetter seg.name = true ↔ (∃ type, d.setterType seg.name = .ok type) ∧ true = true
      rw [exists_setterType_iff, and_iff_left rfl]
  | cons next rest ih =>
      rw [canWrite_cons, exists_writeType_cons]
      constructor
      · rintro ⟨hsetter, child, hstep, hchild⟩
        obtain ⟨htype, hback⟩ := ih.mp hchild
        exact ⟨⟨child, hstep, htype⟩, (writesBack_cons hstep).mpr ⟨hsetter, hback⟩⟩
      · rintro ⟨⟨child, hstep, htype⟩, hback⟩
        obtain ⟨hsetter, hback⟩ := (writesBack_cons hstep).mp hback
        exact ⟨hsetter, child, hstep, ih.mpr ⟨htype, hback⟩⟩

end

/-- A path that can be written has a type that it is written as. The converse holds
exactly if every segment before the last one has a setter wherever there is such a
type. So a result column of an object that takes its type from the path names one
that can be written exactly if every segment before the last one has a setter. -/
theorem canWritePath_iff_pathWriteType_iff (describe : Describe) (d : Descriptor) (path : String) :
    (d.canWritePath describe path = true → ∃ type, d.pathWriteType describe path = .ok type) ∧
    (((∃ type, d.pathWriteType describe path = .ok type) ↔ d.canWritePath describe path = true) ↔
      ((∃ type, d.pathWriteType describe path = .ok type) →
        d.writesBackPath describe path = true)) ∧
    ∀ (types : TypeSystem) (name : TypeName) (column : String) (wire : Option WireType)
      (handlerName : Option String) (mapping : ResultMapping),
      Assistant.resultMapping types (.object name) path column none wire handlerName =
          .ok mapping →
        ∃ d, types.family.describe name = .ok d ∧
          d.pathWriteType types.family.describe path = .ok mapping.type ∧
          (d.canWritePath types.family.describe path = true ↔
            d.writesBackPath types.family.describe path = true) := by
  have hiff (describe : Describe) (d : Descriptor) : d.canWritePath describe path = true ↔
      (∃ type, d.pathWriteType describe path = .ok type) ∧
        d.writesBackPath describe path = true := canWrite_iff
  refine ⟨fun h => ((hiff describe d).mp h).1, ?_, ?_⟩
  · rw [hiff describe d]
    exact iff_self_and
  · intro types name column wire handlerName mapping h
    obtain ⟨type, htype, h⟩ := exists_of_bind_ok h
    obtain ⟨handler, -, h⟩ := exists_of_bind_ok h
    obtain rfl := Except.ok.inj h
    obtain ⟨d, hd, htype⟩ := exists_of_bind_ok htype
    refine ⟨d, hd, htype, ?_⟩
    rw [hiff, and_iff_right ⟨type, htype⟩]

/-! ### A property without a setter on the way -/

/-- Posts, whose blog is only read and whose draft can be replaced. -/
def posts : Family where
  shapes := [
    ("Post", {
      constructor := some []
      fields := [
        { Field.ofSlot "Post" "blog" (.object "Blog") .any with writer := none },
        .ofSlot "Post" "draft" (.object "Blog") .any] }),
    ("Blog", {
      constructor := some []
      fields := [.ofSlot "Blog" "title" .string .string] })]

/-- The title of a draft has a type that it is written as, and it can be written; so
can a result column that is mapped to it. -/
theorem canWritePath_iff_pathWriteType_iff_posts : ∃ d, posts.describe "Post" = .ok d ∧
    ((∃ type, d.pathWriteType posts.describe "draft.title" = .ok type) ↔
      d.canWritePath posts.describe "draft.title" = true) ∧
    d.canWritePath posts.describe "draft.title" = true ∧
    ∃ mapping, Assistant.resultMapping { family := posts } (.object "Post") "draft.title" "title"
      none none none = .ok mapping := by
  obtain ⟨d, hd, hback⟩ := exists_ok_of_any
    (show (posts.describe "Post").toOption.any (fun d =>
      d.writesBackPath posts.describe "draft.title") = true by decide +kernel)
  obtain ⟨mapping, hmapping⟩ := exists_ok_of_toBool
    (show (Assistant.resultMapping { family := posts } (.object "Post") "draft.title" "title"
      none none none).toBool = true by decide +kernel)
  obtain ⟨-, hagree, hcolumn⟩ :=
    canWritePath_iff_pathWriteType_iff posts.describe d "draft.title"
  obtain ⟨d', hd', -, hwrite⟩ := hcolumn { family := posts } "Post" "title" none none mapping
    hmapping
  obtain rfl := Except.ok.inj (hd.symm.trans hd')
  exact ⟨d, hd, hagree.mpr fun _ => hback, hwrite.mpr hback, mapping, hmapping⟩

/-- The title of a blog has a type that it is written as, and a result column is
mapped to it, although the blog has no setter and the title cannot be written. -/
theorem pathWriteType_without_setter : ∃ d, posts.describe "Post" = .ok d ∧
    d.pathWriteType posts.describe "blog.title" = .ok .string ∧
    d.canWritePath posts.describe "blog.title" = false ∧
    (Assistant.resultMapping { family := posts } (.object "Post") "blog.title" "title"
      none none none).toBool = true ∧
    ¬FindsProperties
      ((Edit.path posts.describe "blog.title" (.string "A")).applyTo (.object "Post" [])).1 := by
  obtain ⟨d, hd, hasked⟩ := exists_ok_of_any
    (show (posts.describe "Post").toOption.any (fun d =>
        (d.pathWriteType posts.describe "blog.title").toOption.any (· = .string) &&
          !d.canWritePath posts.describe "blog.title") = true by
      decide +kernel)
  obtain ⟨htype, hwrite⟩ := (Bool.and_eq_true _ _).mp hasked
  obtain ⟨type, htype, hstring⟩ := exists_ok_of_any htype
  obtain rfl := of_decide_eq_true hstring
  have hmapped : (Assistant.resultMapping { family := posts } (.object "Post") "blog.title" "title"
      none none none).toBool = true := by
    decide +kernel
  have hmissing : ¬FindsProperties
      ((Edit.path posts.describe "blog.title" (.string "A")).applyTo (.object "Post" [])).1 := by
    decide +kernel
  exact ⟨d, hd, htype, Bool.not_eq_true' _ ▸ hwrite, hmapped, hmissing⟩

end Descriptor

end SqlMapper
