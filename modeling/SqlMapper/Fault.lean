import SqlMapper.Text.Quoted
import SqlMapper.Value.Basic
import SqlMapper.WireType

/-!
# Faults: why an operation failed

Every operation that can fail answers with a fault. A fault names its cause
and carries what the cause is about; the wording is one function.

## Main definitions

* `Fault` — the kinds of fault, each with the causes of its kind.
* `Fault.message` — the wording.
-/

namespace SqlMapper

/-! ## Causes -/

/-- The two ways of accessing a property. -/
inductive Access where
  | getter
  | setter
  deriving DecidableEq, Repr

/-- The word for an access. -/
def Access.text : Access → String
  | getter => "getter"
  | setter => "setter"

/-- Two accessor methods of one property that cannot be ordered. -/
inductive AccessorConflict where
  /-- Two getters of one type. -/
  | sameType (first second : String) (type : ValueType)
  /-- Two getters whose types are unrelated. -/
  | unrelatedReturns (firstType : ValueType) (first : String)
      (secondType : ValueType) (second : String)
  /-- Two setters whose types are unrelated. -/
  | unrelatedParameters (firstType : ValueType) (first : String)
      (secondType : ValueType) (second : String)
  deriving DecidableEq, Repr

/-- The wording of a conflict. -/
def AccessorConflict.text : AccessorConflict → String
  | sameType first second type => s!"'{first}' and '{second}' both return {type.text}"
  | unrelatedReturns firstType first secondType second =>
      s!"return types {firstType.text} of '{first}' and {secondType.text} of '{second}' are unrelated"
  | unrelatedParameters firstType first secondType second =>
      s!"parameter types {firstType.text} of '{first}' and {secondType.text} of '{second}' are unrelated"

/-- Causes of faults in property access. -/
inductive ReflectionFault where
  /-- An accessor method without one of the known prefixes. -/
  | noAccessorPrefix (method : String)
  /-- An accessor method that is nothing but a prefix. -/
  | noPropertyAfterPrefix (method : String)
  /-- An accessor of one type used on an instance of another. -/
  | wrongTarget (owner found : TypeName)
  /-- A path goes on behind a property of a type without properties. -/
  | noProperties (property : String) (owner : TypeName) (type : ValueType)
  /-- A missing intermediate value of a type that cannot be created. -/
  | noIntermediate (type : ValueType) (property : String)
  /-- A list index that is no numeral. -/
  | invalidIndex (index : String)
  /-- A list index past the end. -/
  | outOfBounds (index length : Nat)
  /-- An indexed read of something that is neither a list nor a map. -/
  | notIndexable (index label : String)
  /-- An indexed write to something that is neither a list nor a map. -/
  | notIndexWritable (index label : String)
  deriving DecidableEq, Repr

/-- The wording of a fault in property access. -/
def ReflectionFault.text : ReflectionFault → String
  | noAccessorPrefix method =>
      s!"Error parsing property name '{method}'.  Didn't start with 'is', 'get' or 'set'."
  | noPropertyAfterPrefix method =>
      s!"Error parsing property name '{method}'.  No property after the prefix."
  | wrongTarget owner found => s!"accessor of '{owner}' invoked on an instance of '{found}'"
  | noProperties property owner type =>
      s!"Property '{property}' of '{owner}' has type {type.text}, which has no properties"
  | noIntermediate type property =>
      s!"Cannot create an intermediate value of type {type.text} for property '{property}'"
  | invalidIndex index => s!"'{index}' is not a valid list index"
  | outOfBounds index length => s!"Index {index} out of bounds for length {length}"
  | notIndexable index label =>
      s!"Cannot get the value '{index}' because a {label} is not a List or Map"
  | notIndexWritable index label =>
      s!"Cannot set the value '{index}' because a {label} is not a List or Map"

/-- Why a parameter reference cannot be read. -/
inductive ReferenceFault where
  /-- There is no property where one must stand; `rest` starts there. -/
  | noProperty (rest : String)
  /-- The parentheses of an expression never balance; `rest` starts with it. -/
  | unbalanced (rest : String)
  /-- Text is left over from the given byte on. -/
  | leftOver (position : Nat)
  deriving DecidableEq, Repr

/-- The wording of a fault in the parameter reference `content`. -/
def ReferenceFault.text (content : String) : ReferenceFault → String
  | noProperty rest => cause content rest "IsNot"
  | unbalanced rest => cause content rest "Char"
  | leftOver position => s!"Parsing error in \x7b{content}\x7d in position {position}"
where
  /-- The wording with the unread rest and the code of what was expected. -/
  cause (content rest code : String) : String :=
    let quoted := Text.Quoted.write rest
    s!"Parsing error in \x7b{content}\x7d: Error(Error \x7b input: {quoted}, code: {code} \x7d)"

/-- The options that a parameter reference may carry, as messages list them. -/
def referenceOptions : String :=
  "javaType,jdbcType,mode,numericScale,resultMap,typeHandler,jdbcTypeName"

/-- Causes of faults in statements, result maps, aliases and handlers. -/
inductive BuilderFault where
  | unknownWireType (name : String)
  | unknownMode (name : String)
  | aliasTaken (name : String) (type : ValueType)
  | unknownAlias (name : String)
  | reference (content : String) (cause : ReferenceFault)
  /-- An open marker right behind a backslash that belongs to the marker
  before it. -/
  | brokenEscape (marker : String)
  /-- A parameter reference with an expression in place of a property. -/
  | expressionReference
  | invalidScale (text content : String)
  | invalidOption (name content : String)
  | unknownHandler (name : String)
  | unknownPropertyHandler (name property : String)
  | noHandler (property : String) (type : ValueType) (wire : Option WireType)
  | blankNamespace
  | wrongNamespace (expected found : String)
  | noNamespace (element resource : String)
  | dottedElement (element : String)
  | unknownResultMap (id statement : String)
  deriving DecidableEq, Repr

/-- The wording of a fault in a statement, result map, alias or handler. -/
def BuilderFault.text : BuilderFault → String
  | unknownWireType name => s!"Error resolving JdbcType. Cause: no constant named '{name}'"
  | unknownMode name => s!"Error resolving ParameterMode. Cause: no constant named '{name}'"
  | aliasTaken name type => s!"The alias '{name}' is already mapped to the value '{type.text}'."
  | unknownAlias name => s!"Could not resolve type alias '{name}'."
  | reference content cause => cause.text content
  | brokenEscape marker => s!"The marker '{marker}' shares its escape with the marker before it"
  | expressionReference => "Expression based parameters are not supported yet"
  | invalidScale text content => s!"Invalid numericScale '{text}' in mapping #\x7b{content}\x7d"
  | invalidOption name content =>
      s!"An invalid property '{name}' was found in mapping #\x7b{content}\x7d.  Valid properties are {referenceOptions}"
  | unknownHandler name => s!"Unknown type handler '{name}'"
  | unknownPropertyHandler name property =>
      s!"Unknown type handler '{name}' for property '{property}'"
  | noHandler property type wire =>
      s!"Type handler was null on parameter mapping for property '{property}'. It was either not specified and/or could not be found for the javaType ({type.text}) : jdbcType ({WireType.nameOrNull wire}) combination."
  | blankNamespace => "The mapper element requires a namespace attribute to be specified."
  | wrongNamespace expected found => s!"Wrong namespace. Expected '{expected}' but found '{found}'."
  | noNamespace element resource => s!"No namespace set for '{element}' in {resource}"
  | dottedElement element =>
      s!"Dots are not allowed in element names, please remove it from {element}"
  | unknownResultMap id statement =>
      s!"Could not find result map '{id}' referenced from '{statement}'"

/-- Causes of faults in mapper registration and dispatch. -/
inductive BindingFault where
  | missingParameter (name : String) (available : List String)
  | argumentCount (method : String) (expected found : Nat)
  | mapperKnown (mapper : String)
  | mapperUnknown (mapper : String)
  | methodUndeclared (method mapper : String)
  | statementMissing (id : String)
  | unknownExecution (id : String)
  /-- No row for a method that declares a primitive result. -/
  | nullForPrimitive (method : String) (type : ValueType)
  /-- A row count for a method that declares a result of another kind. -/
  | unsupportedReturn (method : String) (type : ValueType)
  deriving DecidableEq, Repr

/-- The wording of a fault in mapper registration and dispatch. -/
def BindingFault.text : BindingFault → String
  | missingParameter name available =>
      let names := ", ".intercalate available
      s!"Parameter '{name}' not found. Available parameters are [{names}]"
  | argumentCount method expected found =>
      s!"Mapper method '{method}' expects {expected} argument(s) but was called with {found}"
  | mapperKnown mapper => s!"Type {mapper} is already known to the MapperRegistry."
  | mapperUnknown mapper => s!"Type {mapper} is not known to the MapperRegistry."
  | methodUndeclared method mapper => s!"Method '{method}' is not declared by mapper {mapper}"
  | statementMissing id => s!"Invalid bound statement (not found): {id}"
  | unknownExecution id => s!"Unknown execution method for: {id}"
  | nullForPrimitive method type =>
      s!"Mapper method '{method}' attempted to return null from a method with a primitive return type ({type.text})."
  | unsupportedReturn method type =>
      s!"Mapper method '{method}' has an unsupported return type: {type.text}"

/-- Causes of faults in the conversion of a value. -/
inductive ConversionFault where
  /-- A value of another kind than the one described by `expected`. -/
  | unexpected (expected : String) (found : Value)
  /-- A 64-bit integer outside the 32-bit range. -/
  | tooWide (n : Int64)
  /-- Not an instance of the expected object type. -/
  | notInstance (expected : TypeName) (found : String)
  /-- Not a list of instances of the expected object type. -/
  | notInstances (expected : TypeName) (found : String)
  /-- A handler that does not accept the value. -/
  | rejected (handler : String) (found : Value)
  /-- A value that is no scalar and has no handler of its own. -/
  | unbindable (label : String) (wire : Option WireType)
  /-- A result type without a handler. -/
  | noResultHandler (type : ValueType) (resultMap : String)
  /-- A row count that does not fit the declared result type. -/
  | countTooLarge (rows : Nat) (type : ValueType)

/-- The wording of a fault in the conversion of a value. -/
def ConversionFault.text : ConversionFault → String
  | unexpected expected found =>
      s!"expected {expected} but found {found.label} ({found.text})"
  | tooWide n => s!"{Text.signedDecimal n.toInt} does not fit into an int"
  | notInstance expected found => s!"expected '{expected}' but found '{found}'"
  | notInstances expected found => s!"expected a list of '{expected}' but found '{found}'"
  | rejected handler found => s!"{handler} cannot convert {found.label} ({found.text})"
  | unbindable label wire =>
      s!"No type handler can bind a {label} parameter (jdbcType={WireType.nameOrNull wire})"
  | noResultHandler type resultMap =>
      s!"No type handler found for result type {type.text} of result map '{resultMap}'"
  | countTooLarge rows type => s!"Row count {rows} does not fit in {type.text}"

/-- Causes of faults in reading a file. -/
inductive FileFault where
  | missing
  | isDirectory
  | notDirectory
  | denied
  /-- The path, or one of its parts, is longer than the system takes. -/
  | nameTooLong
  /-- The path holds the character that ends a name for the system. -/
  | nulInName
  /-- The content is no UTF-8 text. -/
  | notText
  /-- Any other cause, as the system words it. -/
  | other (report : String)
  deriving DecidableEq, Repr

/-- The wording of a fault in reading a file. -/
def FileFault.text : FileFault → String
  | missing => "No such file or directory (os error 2)"
  | isDirectory => "Is a directory (os error 21)"
  | notDirectory => "Not a directory (os error 20)"
  | denied => "Permission denied (os error 13)"
  | nameTooLong => "File name too long (os error 36)"
  | nulInName => "file name contained an unexpected NUL byte"
  | notText => "stream did not contain valid UTF-8"
  | other report => report

/-! ## Faults -/

/-- Why an operation failed. -/
inductive Fault where
  /-- An accessor that the type does not have. -/
  | noSuchProperty (access : Access) (property : String) (owner : String)
  /-- A type without a default constructor. -/
  | noDefaultConstructor (type : TypeName)
  /-- Accessor methods of one property that cannot be ordered. -/
  | ambiguousAccessor (access : Access) (property : String) (type : TypeName)
      (conflict : AccessorConflict)
  | reflection (cause : ReflectionFault)
  | builder (cause : BuilderFault)
  /-- An id that is registered already. -/
  | duplicateId (collection id : String)
  /-- An id that is not registered. -/
  | unknownId (collection id : String)
  /-- A short id that several namespaces share. -/
  | ambiguousId (collection id : String)
  | binding (cause : BindingFault)
  | conversion (cause : ConversionFault)
  /-- More than one row where at most one is expected. -/
  | tooManyResults (rows : Nat)
  /-- Work for an executor that is closed. -/
  | executorClosed
  /-- What the transaction reports. -/
  | database (report : String)
  /-- A document that is no settings or mapper file; `resource` names it
  where it is known. -/
  | configuration (resource : Option String) (detail : String)
  | file (cause : FileFault)

/-- The wording of a fault. -/
def Fault.message : Fault → String
  | noSuchProperty access property owner =>
      s!"There is no {access.text} for property named '{property}' in '{owner}'"
  | noDefaultConstructor type => s!"There is no default constructor for '{type}'"
  | ambiguousAccessor access property type conflict =>
      s!"Illegal overloaded {access.text} for property '{property}' in '{type}': {conflict.text}"
  | reflection cause => s!"Reflection error: {cause.text}"
  | builder cause => s!"Builder error: {cause.text}"
  | duplicateId collection id => s!"{collection} already contains value for {id}"
  | unknownId collection id => s!"{collection} does not contain value for {id}"
  | ambiguousId collection id =>
      s!"{id} is ambiguous in {collection} (try using the full name including the namespace, or rename one of the entries)"
  | binding cause => s!"Binding error: {cause.text}"
  | conversion cause => s!"Type error: {cause.text}"
  | tooManyResults rows =>
      s!"Expected one result (or none) to be returned by select_one(), but found: {rows}"
  | executorClosed => "Executor error: Executor was closed."
  | database report => s!"Database error: {report}"
  | configuration none detail => s!"Configuration error: {detail}"
  | configuration (some resource) detail => s!"Configuration error: {resource}: {detail}"
  | file cause => s!"IO error: {cause.text}"

end SqlMapper
