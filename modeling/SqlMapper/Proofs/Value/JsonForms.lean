import SqlMapper.Proofs.Association
import SqlMapper.Value.Json

/-!
# Values as JSON and back

A value goes to JSON and a document comes from JSON by recursion over their parts, so
that the only question is what becomes of one part. JSON has one kind of whole number
and no number that is not finite; a value has whole numbers of two widths, and kinds
that JSON does not know. A document is got back exactly if its whole numbers have 64
bits. A value is got back exactly if it is made of the kinds that JSON knows and none
of its 64-bit numbers would have had 32.

What is lost is lost once: the JSON form of any value, of bytes, bags and objects too,
is got back from the value that it is read as.

## Main definitions

* `Json.Document.FitsValues` — documents that values hold without loss.
* `Value.FitsJson` — values that JSON holds without loss.

## Main results

* `Value.toJson_ofJson_iff`, `Value.ofJson_toJson_iff` — which documents and which
  values are got back.
* `Value.toJson_ofJson_toJson` — every JSON form of a value is got back.
* `Value.json_round_trips` — the three together.
-/

namespace SqlMapper

/-! ## Induction over parts -/

/-- What holds of a document if it holds of its elements and members holds of all
documents. -/
@[elab_as_elim]
theorem Json.Document.inductionOn {motive : Json.Document → Prop} (document : Json.Document)
    (null : motive .null) (bool : ∀ b, motive (.bool b)) (integer : ∀ n, motive (.integer n))
    (float : ∀ x, motive (.float x)) (string : ∀ s, motive (.string s))
    (array : ∀ items, (∀ item ∈ items, motive item) → motive (.array items))
    (object : ∀ members, (∀ member ∈ members, motive member.2) → motive (.object members)) :
    motive document := by
  refine @Json.Document.rec motive (fun items => ∀ item ∈ items, motive item)
    (fun members => ∀ member ∈ members, motive member.2) (fun member => motive member.2)
    null bool integer float string array object ?_ ?_ ?_ ?_ (fun _ _ h => h) document
  · exact fun _ hmem => absurd hmem List.not_mem_nil
  · exact fun _ _ hitem hitems => List.forall_mem_cons.mpr ⟨hitem, hitems⟩
  · exact fun _ hmem => absurd hmem List.not_mem_nil
  · exact fun _ _ hmember hmembers => List.forall_mem_cons.mpr ⟨hmember, hmembers⟩

/-- What holds of a value if it holds of its elements and entries holds of all values. -/
@[elab_as_elim]
theorem Value.inductionOn {motive : Value → Prop} (value : Value)
    (null : motive .null) (bool : ∀ b, motive (.bool b)) (int : ∀ n, motive (.int n))
    (long : ∀ n, motive (.long n)) (double : ∀ x, motive (.double x))
    (string : ∀ s, motive (.string s)) (bytes : ∀ bs, motive (.bytes bs))
    (list : ∀ items, (∀ item ∈ items, motive item) → motive (.list items))
    (map : ∀ entries, (∀ entry ∈ entries, motive entry.2) → motive (.map entries))
    (params : ∀ entries, (∀ entry ∈ entries, motive entry.2) → motive (.params entries))
    (object : ∀ type slots, (∀ slot ∈ slots, motive slot.2) → motive (.object type slots)) :
    motive value := by
  refine @Value.rec motive (fun items => ∀ item ∈ items, motive item)
    (fun entries => ∀ entry ∈ entries, motive entry.2) (fun entry => motive entry.2)
    null bool int long double string bytes list map params object ?_ ?_ ?_ ?_
    (fun _ _ h => h) value
  · exact fun _ hmem => absurd hmem List.not_mem_nil
  · exact fun _ _ hitem hitems => List.forall_mem_cons.mpr ⟨hitem, hitems⟩
  · exact fun _ hmem => absurd hmem List.not_mem_nil
  · exact fun _ _ hentry hentries => List.forall_mem_cons.mpr ⟨hentry, hentries⟩

/-! ## What either side holds of the other -/

/-- Every whole number of the document has 64 bits. Its other numbers are finite: JSON
has no way to write one that is not. -/
inductive Json.Document.FitsValues : Json.Document → Prop where
  | null : FitsValues .null
  | bool (b : Bool) : FitsValues (.bool b)
  | integer {n : Int} (h : -0x8000000000000000 ≤ n ∧ n < 0x8000000000000000) :
      FitsValues (.integer n)
  | float {x : Float} (h : x.isFinite = true) : FitsValues (.float x)
  | string (s : String) : FitsValues (.string s)
  | array {items : List Json.Document} (h : ∀ item ∈ items, FitsValues item) :
      FitsValues (.array items)
  | object {members : List (String × Json.Document)}
      (h : ∀ member ∈ members, FitsValues member.2) : FitsValues (.object members)

/-- The value is built, to any depth, of `null`, booleans, 32-bit integers, 64-bit
integers that have more than 32 bits, finite doubles, strings, lists and maps. -/
inductive Value.FitsJson : Value → Prop where
  | null : FitsJson .null
  | bool (b : Bool) : FitsJson (.bool b)
  | int (n : Int32) : FitsJson (.int n)
  | long {n : Int64} (h : ¬(-0x80000000 ≤ n.toInt ∧ n.toInt < 0x80000000)) : FitsJson (.long n)
  | double {x : Float} (h : x.isFinite = true) : FitsJson (.double x)
  | string (s : String) : FitsJson (.string s)
  | list {items : List Value} (h : ∀ item ∈ items, FitsJson item) : FitsJson (.list items)
  | map {entries : List (String × Value)} (h : ∀ entry ∈ entries, FitsJson entry.2) :
      FitsJson (.map entries)

/-! ## Lists and entries that a function leaves as they are -/

theorem map_eq_self_iff {α : Type} {f : α → α} {as : List α} :
    as.map f = as ↔ ∀ a ∈ as, f a = a := by
  have hid := List.map_inj_left (l := as) (f := f) (g := id)
  rwa [List.map_id] at hid

theorem mapValues_eq_self_iff {α : Type} {f : α → α} {entries : Entries α} :
    entries.map (Prod.map id f) = entries ↔ ∀ entry ∈ entries, f entry.2 = entry.2 := by
  rw [map_eq_self_iff]
  exact forall₂_congr fun entry _ => by rw [Prod.ext_iff]; exact and_iff_right rfl

namespace Value

/-! ## Lists and entries go part by part -/

theorem ofJsonItems_eq_map (items : List Json.Document) : ofJsonItems items = items.map ofJson := by
  induction items with
  | nil => rfl
  | cons item items ih => rw [ofJsonItems, ih, List.map_cons]

theorem ofJsonMembers_eq_map (members : List (String × Json.Document)) :
    ofJsonMembers members = members.map (Prod.map id ofJson) := by
  induction members with
  | nil => rfl
  | cons member members ih => rw [ofJsonMembers, ih, List.map_cons]; rfl

theorem toJsonItems_eq_map (items : List Value) : toJsonItems items = items.map toJson := by
  induction items with
  | nil => rfl
  | cons item items ih => rw [toJsonItems, ih, List.map_cons]

theorem toJsonMembers_eq_map (entries : List (String × Value)) :
    toJsonMembers entries = entries.map (Prod.map id toJson) := by
  induction entries with
  | nil => rfl
  | cons entry entries ih => rw [toJsonMembers, ih, List.map_cons]; rfl

/-! ## From JSON and back -/

/-- A whole number is got back exactly if it has 64 bits. -/
theorem toJson_ofInteger_iff {n : Int} :
    (ofInteger n).toJson = .integer n ↔ -0x8000000000000000 ≤ n ∧ n < 0x8000000000000000 := by
  rw [← fitsLong_iff]
  unfold ofInteger
  by_cases hint : fitsInt n = true
  · rw [if_pos hint, toJson, toInt_ofInt_of_fitsInt hint]
    have hrange := fitsInt_iff.mp hint
    exact iff_of_true rfl (fitsLong_iff.mpr (by omega))
  · rw [if_neg hint]
    by_cases hlong : fitsLong n = true
    · rw [if_pos hlong, toJson, toInt_ofInt_of_fitsLong hlong]
      exact iff_of_true rfl hlong
    · rw [if_neg hlong, toJson]
      split <;> exact iff_of_false nofun hlong

/-- A document is got back from its value exactly if values hold it without loss. -/
theorem toJson_ofJson_iff (document : Json.Document) :
    (ofJson document).toJson = document ↔ document.FitsValues := by
  induction document using Json.Document.inductionOn with
  | null => exact iff_of_true rfl .null
  | bool b => exact iff_of_true rfl (.bool b)
  | integer n =>
      exact toJson_ofInteger_iff.trans ⟨.integer, fun | .integer h => h⟩
  | float x =>
      rw [ofJson, toJson]
      by_cases hfinite : x.isFinite = true
      · rw [if_pos hfinite]
        exact iff_of_true rfl (.float hfinite)
      · rw [if_neg hfinite]
        exact iff_of_false nofun fun | .float h => hfinite h
  | string s => exact iff_of_true rfl (.string s)
  | array items ih =>
      rw [ofJson, toJson, Json.Document.array.injEq, ofJsonItems_eq_map, toJsonItems_eq_map,
        List.map_map, map_eq_self_iff]
      exact (forall₂_congr ih).trans ⟨.array, fun | .array h => h⟩
  | object members ih =>
      rw [ofJson, toJson, Json.Document.object.injEq, ofJsonMembers_eq_map,
        toJsonMembers_eq_map, List.map_map, Prod.map_comp_map, Function.id_comp,
        mapValues_eq_self_iff]
      exact (forall₂_congr ih).trans ⟨.object, fun | .object h => h⟩

/-! ## To JSON and back -/

theorem ofInteger_of_int (n : Int32) : ofInteger n.toInt = int n := by
  have hle := n.le_toInt
  have hlt := n.toInt_lt
  have hfits : fitsInt n.toInt = true := fitsInt_iff.mpr (by omega)
  rw [ofInteger, if_pos hfits, Int32.ofInt_toInt]

/-- A 64-bit integer is got back exactly if it has more than 32 bits: the others would
come back with 32. -/
theorem ofInteger_of_long_iff {n : Int64} :
    ofInteger n.toInt = long n ↔ ¬(-0x80000000 ≤ n.toInt ∧ n.toInt < 0x80000000) := by
  have hle := n.le_toInt
  have hlt := n.toInt_lt
  rw [← fitsInt_iff]
  unfold ofInteger
  by_cases hint : fitsInt n.toInt = true
  · rw [if_pos hint]
    exact iff_of_false nofun (not_not_intro hint)
  · have hlong : fitsLong n.toInt = true := fitsLong_iff.mpr (by omega)
    rw [if_neg hint, if_pos hlong, Int64.ofInt_toInt]
    exact iff_of_true rfl hint

/-- A value is got back from its JSON form exactly if JSON holds it without loss. -/
theorem ofJson_toJson_iff (value : Value) : ofJson value.toJson = value ↔ value.FitsJson := by
  induction value using Value.inductionOn with
  | null => exact iff_of_true rfl .null
  | bool b => exact iff_of_true rfl (.bool b)
  | int n => exact iff_of_true (ofInteger_of_int n) (.int n)
  | long n => exact ofInteger_of_long_iff.trans ⟨.long, fun | .long h => h⟩
  | double x =>
      rw [toJson]
      by_cases hfinite : x.isFinite = true
      · rw [if_pos hfinite]
        exact iff_of_true rfl (.double hfinite)
      · rw [if_neg hfinite]
        exact iff_of_false nofun fun | .double h => hfinite h
  | string s => exact iff_of_true rfl (.string s)
  -- these are read as a list, as a map and as a string
  | bytes | params | object => exact iff_of_false nofun nofun
  | list items ih =>
      rw [toJson, ofJson, list.injEq, toJsonItems_eq_map, ofJsonItems_eq_map, List.map_map,
        map_eq_self_iff]
      exact (forall₂_congr ih).trans ⟨.list, fun | .list h => h⟩
  | map entries ih =>
      rw [toJson, ofJson, map.injEq, toJsonMembers_eq_map, ofJsonMembers_eq_map, List.map_map,
        Prod.map_comp_map, Function.id_comp, mapValues_eq_self_iff]
      exact (forall₂_congr ih).trans ⟨.map, fun | .map h => h⟩

/-! ## Once is enough -/

theorem exists_of_mem_toJsonMembers {entries : List (String × Value)}
    {member : String × Json.Document} (h : member ∈ toJsonMembers entries) :
    ∃ entry ∈ entries, entry.2.toJson = member.2 := by
  rw [toJsonMembers_eq_map] at h
  obtain ⟨entry, hentry, rfl⟩ := List.mem_map.mp h
  exact ⟨entry, hentry, rfl⟩

/-- Every JSON form is a document that values hold without loss. -/
theorem fitsValues_toJson (value : Value) : value.toJson.FitsValues := by
  induction value using Value.inductionOn with
  | null => exact .null
  | bool b => exact .bool b
  | int n =>
      have hle := n.le_toInt
      have hlt := n.toInt_lt
      exact .integer (by omega)
  | long n =>
      have hle := n.le_toInt
      have hlt := n.toInt_lt
      exact .integer (by omega)
  | double x =>
      rw [toJson]
      split
      · next hfinite => exact .float hfinite
      · exact .null
  | string s => exact .string s
  | bytes bs =>
      refine .array fun item hmem => ?_
      obtain ⟨b, -, rfl⟩ := List.mem_map.mp hmem
      have hlt := b.toNat_lt
      exact .integer (by omega)
  | list items ih =>
      refine .array fun item hmem => ?_
      rw [toJsonItems_eq_map] at hmem
      obtain ⟨value, hvalue, rfl⟩ := List.mem_map.mp hmem
      exact ih value hvalue
  | map entries ih =>
      refine .object fun member hmem => ?_
      obtain ⟨entry, hentry, hmember⟩ := exists_of_mem_toJsonMembers hmem
      exact hmember ▸ ih entry hentry
  | params entries ih =>
      -- the members are sorted, which adds none
      refine .object fun member hmem => ?_
      obtain ⟨entry, hentry, hmember⟩ :=
        exists_of_mem_toJsonMembers (Entries.mem_of_mem_sorted hmem)
      exact hmember ▸ ih entry hentry
  | object => exact .string _

/-- The JSON form of any value is got back from the value that it is read as: bytes come
back as a list and bags as a map, and as JSON these are the same. -/
theorem toJson_ofJson_toJson (value : Value) : (ofJson value.toJson).toJson = value.toJson :=
  (toJson_ofJson_iff _).mpr value.fitsValues_toJson

/-- Going through a value gives back exactly the documents whose whole numbers have 64
bits, and going through JSON exactly the values that are built of what JSON knows. Of any
other value it gives back the JSON form. -/
theorem json_round_trips :
    (∀ document : Json.Document, (ofJson document).toJson = document ↔ document.FitsValues) ∧
      (∀ value : Value, ofJson value.toJson = value ↔ value.FitsJson) ∧
      ∀ value : Value, (ofJson value.toJson).toJson = value.toJson :=
  ⟨toJson_ofJson_iff, ofJson_toJson_iff, toJson_ofJson_toJson⟩

/-- A whole number takes the narrowest form that holds it. -/
example :
    ofJson (.array [.integer 0x7fffffff, .integer 0x80000000, .integer 0x8000000000000000]) =
      list [int 0x7fffffff, long 0x80000000, double (nearestDouble 0x8000000000000000)] := rfl

end Value

end SqlMapper
