import Mathlib.Logic.Relation
import SqlMapper.Proofs.Property.NameIndex
import SqlMapper.Proofs.Property.WriteBack

/-!
# What a path in any case stands for

A path in any case is looked up segment by segment, each in the index of the type
that the getters before it lead to. What is found is a path again, and the type can
answer for it: the path leads through object types, and its last property is read or
written. Its names are those asked for, but for their case and their underscores.

That underscores do not count may not have been asked for. But there is one index for
both questions, and a name without its underscores is entered there wherever it is
free. So a name whose case alone should not count finds more: where no exposed name is
the same in another case, it stands for one that is the same without underscores.

## Main definitions

* `Descriptor.HasPart` — a getter reads instances of the type of another descriptor.
* `Descriptor.PlainNames` — every exposed name is one segment of a path.
* `Descriptor.Finds` — names are found for segments, from descriptor to descriptor.
* `Descriptor.exposedAlong` — the names that may stand for the segments of a path.

## Main results

* `Path.segments_intercalate`, `Path.names_dropUnderscores` — paths made of names, and
  paths without underscores.
* `Descriptor.findPath_sound` — what a path in any case stands for.
-/

namespace SqlMapper

/-! ## Paths made of names -/

/-- The segment that is a name. -/
def Segment.ofName (name : String) : Segment := { text := name, name, index := none }

/-- The name of a segment ends at the first bracket. -/
theorem Segment.name_ofChars (cs : List Char) :
    (Segment.ofChars cs).name = String.ofList (cs.takeWhile (· ≠ '[')) := by
  rw [← Text.cutFirst_fst, Segment.ofChars]
  cases Text.cutFirst '[' cs <;> rfl

namespace Path

/-- Names without dots and brackets, joined by dots, are the segments of a path. -/
theorem segments_intercalate {name : String} {names : List String}
    (h : ∀ other ∈ name :: names, '.' ∉ other.toList ∧ '[' ∉ other.toList) :
    (ofString (".".intercalate (name :: names))).segments =
      (name :: names).map Segment.ofName := by
  induction names generalizing name with
  | nil =>
      obtain ⟨hdot, hbracket⟩ := h name List.mem_cons_self
      rw [String.intercalate_singleton, ofString_of_not_mem hdot hbracket]
      rfl
  | cons next names ih =>
      obtain ⟨hdot, hbracket⟩ := h name List.mem_cons_self
      rw [String.intercalate_cons_cons, segments_append, ofString_of_not_mem hdot hbracket,
        ih fun other hother => h other (List.mem_cons_of_mem _ hother)]
      rfl

/-- A path without its underscores has the same names without theirs. -/
theorem names_dropUnderscores (path : String) :
    (ofString (dropUnderscores path)).segments.map Segment.name =
      (ofString path).segments.map fun seg => dropUnderscores seg.name := by
  have hname (piece : List Char) : (Segment.ofChars (piece.filter (· ≠ '_'))).name =
      dropUnderscores (Segment.ofChars piece).name := by
    rw [Segment.name_ofChars, Segment.name_ofChars, Text.takeWhile_ne_filter (by decide)]
    unfold dropUnderscores
    rw [String.toList_ofList]
  rw [segments_ofString, segments_ofString, dropUnderscores, String.toList_ofList,
    Text.splitAt_filter (by decide)]
  simp only [List.map_map]
  exact List.map_congr_left fun piece _ => hname piece

end Path

namespace Descriptor

/-! ## Names found one after the other -/

/-- Some getter reads instances of the type of `part`. -/
def HasPart (describe : Describe) (d part : Descriptor) : Prop :=
  ∃ property type, d.getterType property = .ok (.object type) ∧ describe type = .ok part

/-- Every exposed name is one segment of a path. -/
def PlainNames (d : Descriptor) : Prop :=
  ∀ name ∈ d.exposed, '.' ∉ name.toList ∧ '[' ∉ name.toList

instance (d : Descriptor) : Decidable d.PlainNames :=
  inferInstanceAs (Decidable (∀ _ ∈ _, _))

/-- The names are found for those asked for, each in the descriptor of the type that
the names before it lead to. -/
inductive Finds (describe : Describe) : Descriptor → List String → List String → Prop
  | last {d : Descriptor} {name property : String} :
      d.findName name = some property → Finds describe d [name] [property]
  | step {d part : Descriptor} {name property : String} {type : TypeName}
      {asked found : List String} :
      d.findName name = some property → d.getterType property = .ok (.object type) →
      describe type = .ok part → Finds describe part asked found →
      Finds describe d (name :: asked) (property :: found)

/-- All names that a descriptor leads to are plain if all those of the known types are:
a type that is not known has none. -/
theorem plainNames_of_reaches {family : Family} {type : TypeName} {d e : Descriptor}
    (hknown : ∀ type ∈ family.shapes.keys,
      (family.describe type).toOption.all (fun d => decide d.PlainNames) = true)
    (hd : family.describe type = .ok d)
    (he : Relation.ReflTransGen (HasPart family.describe) d e) : e.PlainNames := by
  obtain ⟨type, he⟩ : ∃ type, family.describe type = .ok e := by
    cases he with
    | refl => exact ⟨type, hd⟩
    | tail _ hpart =>
        obtain ⟨-, type, -, he⟩ := hpart
        exact ⟨type, he⟩
  by_cases htype : type ∈ family.shapes.keys
  · have hplain := hknown type htype
    rw [he] at hplain
    exact of_decide_eq_true hplain
  · have hnone : family.shapes.find? type = none := by
      rw [← Option.not_isSome_iff_eq_none, Entries.find?_isSome_iff]
      exact htype
    rw [Family.describe, Family.shape, hnone] at he
    obtain rfl := Except.ok.inj he
    exact fun _ hname => nomatch hname

/-- The exposed names of the types that answer for the segments: those of this one for
the first segment, and for each other one those of the type where the segments before
it lead. -/
def exposedAlong (describe : Describe) (d : Descriptor) : List Segment → List (List String)
  | [] => []
  | seg :: rest =>
      d.exposed :: match d.step describe seg with
        | .ok part => part.exposedAlong describe rest
        | .error _ => []

section

variable {describe : Describe} {family : Family} {type : TypeName} {d part : Descriptor}
  {property : String} {asked found : List String}

/-- A name that was found leads on to the part that its getter reads. -/
theorem step_ofName (htype : d.getterType property = .ok (.object type))
    (hpart : describe type = .ok part) : d.step describe (.ofName property) = .ok part :=
  step_eq_ok_iff.mpr ⟨type, segmentType_eq_ok_iff.mpr ⟨_, htype, rfl⟩, hpart⟩

/-- An exposed name has a type that it is read as or one that it is written as. -/
theorem exists_type_of_mem_exposed (h : property ∈ d.exposed) :
    (∃ type, d.readType describe (.ofName property) [] = .ok type) ∨
      ∃ type, d.writeType describe (.ofName property) [] = .ok type := by
  rcases List.mem_append.mp h with hread | hwritten
  · exact .inl (canRead_iff.mp (Entries.find?_isSome_iff.mpr hread))
  · exact .inr (exists_setterType_iff.mpr (Entries.find?_isSome_iff.mpr hwritten))

namespace Finds

theorem ne_nil (h : Finds describe d asked found) : found ≠ [] := by
  cases h <;> exact List.cons_ne_nil _ _

/-- Names that are found have a type, as segments that are read or that are written. -/
theorem exists_type (h : Finds family.describe d asked (property :: found))
    (hd : family.describe type = .ok d) :
    (∃ type, d.readType family.describe (.ofName property) (found.map .ofName) = .ok type) ∨
      ∃ type, d.writeType family.describe (.ofName property) (found.map .ofName) = .ok type := by
  induction found generalizing d type asked property with
  | nil =>
      cases h with
      | last hname => exact exists_type_of_mem_exposed (mem_exposed_of_findName hd hname)
      | step _ _ _ hrest => nomatch hrest
  | cons next found ih =>
      cases h with
      | step hname htype hpart hrest =>
          have hstep := step_ofName htype hpart
          rw [List.map_cons, ← canRead_iff, canRead_cons, exists_writeType_cons]
          refine (ih hrest hpart).imp ?_ ?_
          · exact fun hread => ⟨_, hstep, canRead_iff.mpr hread⟩
          · exact fun hwrite => ⟨_, hstep, hwrite⟩

/-- Names that are found where all names are plain are plain. -/
theorem plain (h : Finds family.describe d asked found) (hd : family.describe type = .ok d)
    (hplain : ∀ e, Relation.ReflTransGen (HasPart family.describe) d e → e.PlainNames) :
    ∀ name ∈ found, '.' ∉ name.toList ∧ '[' ∉ name.toList := by
  induction h generalizing type with
  | last hname =>
      rw [List.forall_mem_singleton]
      exact hplain _ .refl _ (mem_exposed_of_findName hd hname)
  | step hname htype hpart hrest ih =>
      rw [List.forall_mem_cons]
      refine ⟨hplain _ .refl _ (mem_exposed_of_findName hd hname), ih hpart fun e he => ?_⟩
      exact hplain e (.head ⟨_, _, htype, hpart⟩ he)

/-- Names that are found are those asked for, if neither their case nor their
underscores count. -/
theorem bare_eq (h : Finds family.describe d asked found) (hd : family.describe type = .ok d) :
    List.Forall₂ (fun property name =>
      Text.upper (dropUnderscores property) = Text.upper (dropUnderscores name)) found asked := by
  induction h generalizing type with
  | last hname => exact .cons (bare_eq_of_findName hd hname) .nil
  | step hname htype hpart hrest ih => exact .cons (bare_eq_of_findName hd hname) (ih hpart)

/-- Names that are found are those asked for but for their case, exactly if each one
asked for is, but for its case, an exposed name. -/
theorem upper_eq_iff (h : Finds family.describe d asked found)
    (hd : family.describe type = .ok d) :
    List.Forall₂ (fun property name => Text.upper property = Text.upper name) found asked ↔
      List.Forall₂ (fun names name => ∃ other ∈ names, Text.upper other = Text.upper name)
        (d.exposedAlong family.describe (found.map .ofName)) asked := by
  induction h generalizing type with
  | @last d name property hname =>
      have hone : d.exposedAlong family.describe ([property].map .ofName) = [d.exposed] := by
        rw [List.map_singleton, exposedAlong]
        split <;> rfl
      rw [hone, List.forall₂_cons, List.forall₂_cons, upper_eq_iff_of_findName hd hname]
      exact and_congr_right' (iff_of_true .nil .nil)
  | step hname htype hpart hrest ih =>
      rw [List.map_cons, exposedAlong, step_ofName htype hpart, List.forall₂_cons,
        List.forall₂_cons, upper_eq_iff_of_findName hd hname, ih hpart]

end Finds

end

/-! ## Paths -/

section

variable {describe : Describe} {d : Descriptor}

theorem finds_of_findSegments {seg : Segment} {rest : List Segment} {found : List String}
    (h : d.findSegments describe seg rest = some found) :
    Finds describe d ((seg :: rest).map Segment.name) found := by
  induction rest generalizing d seg found with
  | nil =>
      obtain ⟨property, hname, rfl⟩ := Option.map_eq_some_iff.mp h
      exact .last hname
  | cons next rest ih =>
      obtain ⟨property, hname, h⟩ := Option.bind_eq_some_iff.mp h
      split at h
      · next type htype =>
          split at h
          · next part hpart =>
              obtain ⟨others, hothers, heq⟩ := Option.bind_eq_some_iff.mp h
              obtain rfl := Option.some.inj heq
              exact .step hname htype hpart (ih hothers)
          · cases h
      · cases h

/-- A path stands for the names that are found for those of its segments. -/
theorem exists_finds_of_findPath {path found : String} {bare : Bool}
    (h : d.findPath describe path bare = some found) : ∃ property names,
      found = ".".intercalate (property :: names) ∧
        Finds describe d ((Path.ofString path).segments.map fun seg =>
          if bare then dropUnderscores seg.name else seg.name) (property :: names) := by
  have hasked : (Path.ofString (if bare then dropUnderscores path else path)).segments.map
      Segment.name = (Path.ofString path).segments.map fun seg =>
        if bare then dropUnderscores seg.name else seg.name := by
    cases bare with
    | false => rfl
    | true => exact Path.names_dropUnderscores path
  obtain ⟨names, hnames, h⟩ := Option.bind_eq_some_iff.mp h
  dsimp only at h
  split at h
  · cases h
  · obtain rfl := Option.some.inj h
    have hfinds := finds_of_findSegments hnames
    rw [← Path.segments, hasked] at hfinds
    obtain ⟨property, names, rfl⟩ := List.exists_cons_of_ne_nil hfinds.ne_nil
    exact ⟨property, names, rfl, hfinds⟩

end

/-- A path in any case stands for one with as many segments, which the type can answer
for, whether it is read or written: every segment but the last one reads an object
type. Segment by segment, the names are the same if neither their case nor their
underscores count. If underscores count, the names are the same but for their case
exactly if each name asked for is, but for its case, exposed by the type that answers
for it. -/
theorem findPath_sound {family : Family} {type : TypeName} {d : Descriptor}
    (hd : family.describe type = .ok d)
    (hplain : ∀ e, Relation.ReflTransGen (HasPart family.describe) d e → e.PlainNames)
    {path found : String} {bare : Bool} (h : d.findPath family.describe path bare = some found) :
    ((∃ type, d.pathReadType family.describe found = .ok type) ∨
      ∃ type, d.pathWriteType family.describe found = .ok type) ∧
    List.Forall₂ (fun f a : Segment => f.index = none ∧
        Text.upper (dropUnderscores f.name) = Text.upper (dropUnderscores a.name))
      (Path.ofString found).segments (Path.ofString path).segments ∧
    (bare = false →
      (List.Forall₂ (fun f a : Segment => Text.upper f.name = Text.upper a.name)
          (Path.ofString found).segments (Path.ofString path).segments ↔
        List.Forall₂ (fun (names : List String) (a : Segment) =>
            ∃ other ∈ names, Text.upper other = Text.upper a.name)
          (d.exposedAlong family.describe (Path.ofString found).segments)
          (Path.ofString path).segments)) := by
  obtain ⟨property, names, rfl, hfinds⟩ := exists_finds_of_findPath h
  have hsegments := Path.segments_intercalate (hfinds.plain hd hplain)
  refine ⟨?_, ?_, ?_⟩
  · obtain ⟨hhead, hrest⟩ := List.cons.inj hsegments
    unfold pathReadType pathWriteType
    dsimp only
    rw [hhead, hrest]
    exact hfinds.exists_type hd
  · have hbare := List.forall₂_map_right_iff.mp (hfinds.bare_eq hd)
    rw [hsegments, List.forall₂_map_left_iff]
    refine hbare.imp fun name seg heq => ⟨rfl, heq.trans ?_⟩
    split
    · rw [dropUnderscores_dropUnderscores]
    · rfl
  · rintro rfl
    have hupper := hfinds.upper_eq_iff hd
    rw [List.forall₂_map_right_iff, List.forall₂_map_right_iff] at hupper
    rw [hsegments, List.forall₂_map_left_iff]
    exact hupper

/-! ### A name with an underscore -/

/-- Articles with an author whose pen name is written with an underscore. -/
def articles : Family where
  shapes := [
    ("Article", { fields := [.ofSlot "Article" "author" (.object "Author") .any] }),
    ("Author", { fields := [.ofSlot "Author" "pen_name" .string .string] })]

theorem plainNames_articles : ∀ type ∈ articles.shapes.keys,
    (articles.describe type).toOption.all (fun d => decide d.PlainNames) = true := by
  decide +kernel

/-- The pen name of the author is found in another case and without its underscore. If
underscores count, it is found in another case, by a name that is exposed. -/
theorem findPath_sound_articles : ∃ d, articles.describe "Article" = .ok d ∧
    List.Forall₂ (fun f a : Segment => f.index = none ∧
        Text.upper (dropUnderscores f.name) = Text.upper (dropUnderscores a.name))
      (Path.ofString "author.pen_name").segments (Path.ofString "AUTHOR[0].PenName").segments ∧
    List.Forall₂ (fun f a : Segment => Text.upper f.name = Text.upper a.name)
      (Path.ofString "author.pen_name").segments (Path.ofString "Author.PEN_NAME").segments := by
  obtain ⟨d, hd, hfound⟩ := exists_ok_of_any
    (show (articles.describe "Article").toOption.any (fun d =>
        d.findPath articles.describe "AUTHOR[0].PenName" true = some "author.pen_name" ∧
          d.findPath articles.describe "Author.PEN_NAME" false = some "author.pen_name" ∧
          d.exposedAlong articles.describe (Path.ofString "author.pen_name").segments =
            [["author", "author"], ["pen_name", "pen_name"]]) = true by
      decide +kernel)
  obtain ⟨hbare, hcased, hexposed⟩ := of_decide_eq_true hfound
  have hplain (e : Descriptor) (he : Relation.ReflTransGen (HasPart articles.describe) d e) :
      e.PlainNames := plainNames_of_reaches plainNames_articles hd he
  refine ⟨d, hd, (findPath_sound hd hplain hbare).2.1, ?_⟩
  refine ((findPath_sound hd hplain hcased).2.2 rfl).mpr ?_
  rw [hexposed]
  decide +kernel

/-- The pen name of the author is found without its underscore although underscores
count, and although all names are plain: no exposed name has that upper case. -/
theorem findPath_without_underscore : ∃ d, articles.describe "Article" = .ok d ∧
    (∀ e, Relation.ReflTransGen (HasPart articles.describe) d e → e.PlainNames) ∧
    d.findPath articles.describe "AUTHOR.PENNAME" false = some "author.pen_name" ∧
    ¬List.Forall₂ (fun f a : Segment => Text.upper f.name = Text.upper a.name)
      (Path.ofString "author.pen_name").segments (Path.ofString "AUTHOR.PENNAME").segments := by
  obtain ⟨d, hd, hfound⟩ := exists_ok_of_any
    (show (articles.describe "Article").toOption.any (fun d =>
        d.findPath articles.describe "AUTHOR.PENNAME" false = some "author.pen_name") = true by
      decide +kernel)
  exact ⟨d, hd, fun _ he => plainNames_of_reaches plainNames_articles hd he,
    of_decide_eq_true hfound, by decide +kernel⟩

end Descriptor

end SqlMapper
