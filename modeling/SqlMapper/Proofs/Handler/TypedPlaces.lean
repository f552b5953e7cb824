import SqlMapper.Proofs.Handler.Typing
import SqlMapper.Value.Conversion

/-!
# Handlers and typed places

Three tables say what becomes of a value: the handler of a type has one for the
parameters that it sends and one for the columns that it reads, and a typed place has
one for what it takes. The value of a column goes through two of them, first that of
the handler and then that of the property that it is written to.

For the scalar types the tables hold together by a few facts. A value of the type is
sent as it is; what can be sent at all is read in the same way; and as long as a value
is present, a typed place makes of it what the handler would send. So whatever a handler
has made of a value, the tables of its type do not change it any more.

## Main definitions

* `Handler.IsFor` — the built-in handlers with their scalar types.
* `Handler.Narrows` — what becomes of a 64-bit integer where 32 bits are asked for.
* `Handler.Settled` — what a handler has made of a value goes through all tables as it
  is.
* `Handler.Agrees` — whatever comes out of a handler is settled.

## Main results

* `Handler.IsFor.fromWire_of_toWire`, `Handler.IsFor.toWire_eq_ok_iff` — the tables
  compared.
* `Handler.scalars_agree` — the built-in handlers agree with typed places, and no integer
  is wrapped.
-/

namespace SqlMapper

/-- The integer that a value is, of either width. -/
def Value.integer? : Value → Option Int
  | int n => some n.toInt
  | long n => some n.toInt
  | _ => none

namespace Handler

variable {handler : Handler} {type : ValueType} {given taken value : Value} {wire : Option WireType}

/-! ## Integers of both widths -/

/-- A 32-bit integer is the same one with 64 bits. -/
theorem toInt_widened (n : Int32) : (Int64.ofInt n.toInt).toInt = n.toInt := by
  have hle := n.le_toInt
  have hlt := n.toInt_lt
  exact Int64.toInt_ofInt_of_le (by omega) (by omega)

/-- What becomes of a 64-bit integer where 32 bits are asked for. -/
structure Narrows (n : Int64) : Prop where
  /-- If it has 32 bits, it is kept. -/
  fits : -0x80000000 ≤ n.toInt ∧ n.toInt < 0x80000000 →
    ∃ m : Int32, m.toInt = n.toInt ∧ integer.fromWire (.long n) = .ok (.int m) ∧
      (∀ wire, integer.toWire (.long n) wire = .ok (.int m)) ∧
      Conversion.int.apply (.long n) = .ok (.int m)
  /-- If it has more, it is refused. -/
  wide : ¬(-0x80000000 ≤ n.toInt ∧ n.toInt < 0x80000000) →
    integer.fromWire (.long n) = .error (.conversion (.rejected integerName (.long n))) ∧
      (∀ wire, integer.toWire (.long n) wire =
        .error (.conversion (.rejected integerName (.long n)))) ∧
      Conversion.int.apply (.long n) = .error (.conversion (.tooWide n))

theorem narrows (n : Int64) : Narrows n where
  fits h := by
    have hfits := fitsInt_iff.mpr h
    have hnarrow : narrow integerName n = .ok (.int (Int32.ofInt n.toInt)) := if_pos hfits
    exact ⟨_, toInt_ofInt_of_fitsInt hfits, hnarrow, fun _ => hnarrow, if_pos hfits⟩
  wide h := by
    have hwide := mt fitsInt_iff.mp h
    have hnarrow : narrow integerName n = reject integerName (.long n) := if_neg hwide
    exact ⟨hnarrow, fun _ => hnarrow, if_neg hwide⟩

theorem exists_of_fromWire_long {n : Int64} (h : integer.fromWire (.long n) = .ok value) :
    ∃ m : Int32, m.toInt = n.toInt ∧ value = .int m := by
  by_cases hrange : -0x80000000 ≤ n.toInt ∧ n.toInt < 0x80000000
  · obtain ⟨m, hm, hread, -⟩ := (narrows n).fits hrange
    exact ⟨m, hm, Except.ok.inj (h.symm.trans hread)⟩
  · obtain ⟨hrefused, -⟩ := (narrows n).wide hrange
    cases h.symm.trans hrefused

/-! ## The tables of a scalar handler -/

/-- A built-in handler and the scalar type that it is for. -/
inductive IsFor : Handler → ValueType → Prop where
  | boolean : IsFor boolean .bool
  | integer : IsFor integer .int
  | long : IsFor long .long
  | double : IsFor double .double
  | string : IsFor string .string
  | bytes : IsFor bytes .bytes

theorem isFor_of_mem {entry : ValueType × Handler × List WireType}
    (h : entry ∈ HandlerRegistry.scalars) : entry.2.1.IsFor entry.1 := by
  simp only [HandlerRegistry.scalars, List.mem_cons, List.not_mem_nil, or_false] at h
  rcases h with rfl | rfl | rfl | rfl | rfl | rfl
  · exact .boolean
  · exact .integer
  · exact .long
  · exact .double
  · exact .string
  · exact .bytes

namespace IsFor

theorem gives (h : handler.IsFor type) : handler.Gives type := by
  cases h with
  | boolean => exact gives_boolean
  | integer => exact gives_integer
  | long => exact gives_long
  | double => exact gives_double
  | string => exact gives_string
  | bytes => exact gives_bytes

/-- Nothing but `null` is read as `null`. -/
theorem eq_null_of_fromWire (h : handler.IsFor type) (hread : handler.fromWire given = .ok .null) :
    given = .null := by
  cases h with
  | integer =>
      cases given with
      | null => rfl
      | long n =>
          obtain ⟨m, -, hm⟩ := exists_of_fromWire_long hread
          cases hm
      | _ => cases hread
  | _ =>
      cases given with
      | null => rfl
      | _ => cases hread

/-- `null` and the values of the type are sent as they are. -/
theorem toWire_of_hasTypeOrNull (h : handler.IsFor type) (hvalue : value.HasTypeOrNull type) :
    handler.toWire value wire = .ok value := by
  rcases hvalue with rfl | hvalue
  · cases h <;> rfl
  · cases h <;> cases hvalue <;> rfl

/-- What can be sent is read in the same way. -/
theorem fromWire_of_toWire (h : handler.IsFor type) (hsent : handler.toWire given wire = .ok taken) :
    handler.fromWire given = .ok taken := by
  cases h <;> cases given <;> first | exact hsent | cases hsent

/-- A value that is present is sent as a typed place converts it. -/
theorem toWire_eq_ok_iff (h : handler.IsFor type) (hpresent : given ≠ .null) :
    handler.toWire given wire = .ok taken ↔
      (Conversion.ofType type).apply given = .ok taken := by
  cases given with
  | null => exact absurd rfl hpresent
  | long n =>
      cases h with
      | integer =>
          show Handler.integer.toWire (.long n) wire = _ ↔ Conversion.int.apply (.long n) = _
          by_cases hrange : -0x80000000 ≤ n.toInt ∧ n.toInt < 0x80000000
          · obtain ⟨m, -, -, hsent, hconverted⟩ := (narrows n).fits hrange
            rw [hsent, hconverted]
          · obtain ⟨-, hsent, hconverted⟩ := (narrows n).wide hrange
            rw [hsent, hconverted]
            exact iff_of_false nofun nofun
      | long | double => exact Iff.rfl
      | _ => exact iff_of_false nofun nofun
  | _ => cases h <;> first | exact Iff.rfl | exact iff_of_false nofun nofun

/-- An integer that is read as an integer is read as the same one. -/
theorem integer?_of_fromWire (h : handler.IsFor type) {n m : Int}
    (hread : handler.fromWire given = .ok taken) (hgiven : given.integer? = some n)
    (htaken : taken.integer? = some m) : m = n := by
  cases given with
  | int k =>
      obtain rfl := Option.some.inj hgiven
      cases h <;> cases hread <;> cases htaken
      · rfl
      · exact toInt_widened k
  | long k =>
      obtain rfl := Option.some.inj hgiven
      cases h with
      | integer =>
          obtain ⟨m, hm, rfl⟩ := exists_of_fromWire_long hread
          exact (Option.some.inj htaken).symm.trans hm
      | long =>
          cases hread
          exact (Option.some.inj htaken).symm
      | bytes => cases hread
      | _ =>
          cases hread
          cases htaken
  | _ => cases hgiven

end IsFor

/-! ## What handlers settle -/

/-- What a handler has made of a value goes through all tables as it is. -/
structure Settled (handler : Handler) (type : ValueType) (given taken : Value) : Prop where
  /-- Nothing becomes `null` and `null` becomes nothing else. -/
  null_iff : taken = .null ↔ given = .null
  /-- If it is present, it is of the type of the handler. -/
  typed : taken ≠ .null → taken.HasType type
  /-- If it is present, a typed place takes it as it is. -/
  place : taken ≠ .null → (Conversion.ofType type).apply taken = .ok taken
  /-- A typed place that may stay empty takes it as it is. -/
  optional : (Conversion.optional (Conversion.ofType type)).apply taken = .ok taken
  /-- As a column it is read as it is. -/
  column : handler.fromWire taken = .ok taken
  /-- As a parameter it is sent as it is. -/
  parameter : ∀ wire, handler.toWire taken wire = .ok taken
  /-- An integer that is still an integer is the same one. -/
  integer : ∀ n m, given.integer? = some n → taken.integer? = some m → m = n

theorem IsFor.settled_of_fromWire (h : handler.IsFor type)
    (hread : handler.fromWire given = .ok taken) : handler.Settled type given taken := by
  have htype : taken.HasTypeOrNull type := h.gives given taken hread
  have hparameter (wire : Option WireType) : handler.toWire taken wire = .ok taken :=
    h.toWire_of_hasTypeOrNull htype
  have hplace (hpresent : taken ≠ .null) : (Conversion.ofType type).apply taken = .ok taken :=
    (h.toWire_eq_ok_iff hpresent).mp (hparameter none)
  refine {
    null_iff := ⟨?_, ?_⟩
    typed := htype.resolve_left
    place := hplace
    optional := ?_
    column := h.fromWire_of_toWire (hparameter none)
    parameter := hparameter
    integer := fun n m => h.integer?_of_fromWire hread }
  · rintro rfl
    exact h.eq_null_of_fromWire hread
  · rintro rfl
    have hsent : handler.toWire .null none = .ok .null := h.toWire_of_hasTypeOrNull (.inl rfl)
    exact Except.ok.inj (hread.symm.trans (h.fromWire_of_toWire hsent))
  · by_cases hpresent : taken = .null
    · rw [hpresent]
      rfl
    · rw [Conversion.apply_optional hpresent, hplace hpresent]

theorem IsFor.settled_of_toWire (h : handler.IsFor type)
    (hsent : handler.toWire given wire = .ok taken) : handler.Settled type given taken :=
  h.settled_of_fromWire (h.fromWire_of_toWire hsent)

/-- Whatever comes out of the handler is settled, and what it sends is what a typed place
would make of the same value. -/
structure Agrees (handler : Handler) (type : ValueType) : Prop where
  column : ∀ given taken, handler.fromWire given = .ok taken → handler.Settled type given taken
  parameter : ∀ given wire taken, handler.toWire given wire = .ok taken →
    handler.Settled type given taken
  place : ∀ given wire taken, given ≠ .null →
    (handler.toWire given wire = .ok taken ↔ (Conversion.ofType type).apply given = .ok taken)

/-- The handlers of the scalar types agree with typed places of these types, and where 32
bits are asked for, a 64-bit integer is kept or refused. -/
theorem scalars_agree :
    (∀ entry ∈ HandlerRegistry.scalars, entry.2.1.Agrees entry.1) ∧ ∀ n, Narrows n := by
  refine ⟨fun entry hmem => ?_, narrows⟩
  have hfor := isFor_of_mem hmem
  exact {
    column := fun given taken => hfor.settled_of_fromWire
    parameter := fun given wire taken => hfor.settled_of_toWire
    place := fun given wire taken => hfor.toWire_eq_ok_iff }

/-- A 64-bit column that has 32 bits is settled as a 32-bit integer, and one that has
more is refused. -/
theorem scalars_agree_long :
    integer.Settled .int (.long (-7)) (.int (-7)) ∧
      integer.fromWire (.long 0x80000000) =
        .error (.conversion (.rejected integerName (.long 0x80000000))) ∧
      Conversion.int.apply (.long 0x80000000) = .error (.conversion (.tooWide 0x80000000)) := by
  obtain ⟨hagree, hnarrow⟩ := scalars_agree
  have hinteger : integer.Agrees .int :=
    hagree (.int, integer, [.integer, .smallInt, .tinyInt]) (by simp [HandlerRegistry.scalars])
  obtain ⟨hread, -, hplace⟩ := (hnarrow 0x80000000).wide (by decide)
  exact ⟨hinteger.column _ _ rfl, hread, hplace⟩

end Handler

end SqlMapper
