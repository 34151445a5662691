/-!
Faults: what stops a call without being a statement about a document or a schema.
-/

namespace Assay

/-- The families that faults fall into. -/
inductive FaultFamily where
  | type
  | value
  | access
  | overflow
  | arithmetic
  | depth
  | runtime
  | system
deriving DecidableEq, Repr

/-- The reason why a call stopped. -/
inductive Fault where
  /-- A value that has no JSON form was asked for its kind. -/
  | notJson (typeName : String)
  /-- A decimal number was ordered against something that is no number. -/
  | unorderedDecimal
  /-- Members were asked of a value that has none. -/
  | notIterable (typeName : String)
  /-- An element of a sequence that was to hold pairs has no parts. -/
  | notAPair (index : Nat)
  /-- An element of a sequence that was to hold pairs has another number of parts. -/
  | pairLength (index length : Nat)
  /-- A real number was asked of a value that stands for none. -/
  | realRequired (typeName : String)
  /-- A real number was asked of a signalling number. -/
  | realOfSignalling
  /-- A real number was asked of an integer beyond all of them. -/
  | integerTooLargeForReal
  /-- Values of two types that have no order were compared. -/
  | incomparable (sign left right : String)
  /-- A key that no JSON name stands for was to be written. -/
  | unwritableKey (typeName : String)
  /-- A value that can change was used as a name. -/
  | unhashable (typeName : String)
  /-- A signalling number was used as a name. -/
  | unhashableNumber
  /-- A value was asked for something that its type does not offer. -/
  | noMember (typeName member : String)
  /-- Something that can only be read was assigned. -/
  | readOnly (typeName member : String)
  /-- Something of a type that cannot be changed was assigned. -/
  | notWritable (typeName member : String)
  /-- Something other than a dictionary was to hold the fields of a record. -/
  | notADictionary (typeName : String)
  /-- Something other than a class was to be the class of a record. -/
  | notAClass (typeName : String)
  /-- A repetition count of a pattern exceeds what patterns can count. -/
  | repetitionTooLarge
  /-- A numeral of a pattern has too many digits to be read. -/
  | numeralTooLong (digits : Nat)
  /-- A pattern turned on both the ASCII and the Unicode mode. -/
  | incompatibleModes
  /-- A pattern looks farther behind than patterns can count. -/
  | lookbehindTooLong
  /-- A match left a group that ends before it begins. -/
  | twistedGroup
  /-- A validator was given something that is no schema. -/
  | notASchema (typeName : String)
  /-- A counter was asked to fall. -/
  | negativeIncrement
  /-- A type name is not the name of a simple type. -/
  | unknownTypeName (quoted : String)
  /-- A format was registered without a name. -/
  | namelessFormat
  /-- A format was registered for no type at all. -/
  | typelessFormat (name : String)
  /-- A record has no field of that name. -/
  | noField (record field : String)
  /-- A schema holds itself. -/
  | endless
  /-- A pattern of bytes was searched for in a text. -/
  | bytesPatternOnText
  /-- Something that was asked for its truth, or for what it holds, failed itself. -/
  | raised (family : FaultFamily) (message : String)
deriving DecidableEq, Repr

namespace Fault

/-- The family of a fault. -/
def family
    : Fault → FaultFamily
  | .notJson _ | .notIterable _ | .unhashable _ | .unhashableNumber | .notASchema _
  | .notADictionary _ | .notAClass _ | .notAPair _ | .unwritableKey _
  | .realRequired _ | .incomparable .. | .bytesPatternOnText => .type
  | .noMember .. | .readOnly .. | .notWritable .. => .access
  | .repetitionTooLarge | .integerTooLargeForReal => .overflow
  | .unorderedDecimal => .arithmetic
  | .endless => .depth
  | .lookbehindTooLong => .runtime
  | .twistedGroup => .system
  | .pairLength .. | .realOfSignalling | .numeralTooLong _ | .incompatibleModes
  | .negativeIncrement | .unknownTypeName _ | .namelessFormat | .typelessFormat _
  | .noField .. => .value
  | .raised family _ => family

/-- The text of a fault. -/
def message
    : Fault → String
  | .notJson typeName => "Not a JSON value: " ++ typeName
  | .unorderedDecimal => "[<class 'decimal.InvalidOperation'>]"
  | .notIterable typeName => "'" ++ typeName ++ "' object is not iterable"
  | .notAPair index =>
      "cannot convert dictionary update sequence element #" ++ toString index ++ " to a sequence"
  | .pairLength index length =>
      "dictionary update sequence element #" ++ toString index ++ " has length "
        ++ toString length ++ "; 2 is required"
  | .realRequired typeName => "must be real number, not " ++ typeName
  | .realOfSignalling => "cannot convert signaling NaN to float"
  | .integerTooLargeForReal => "int too large to convert to float"
  | .incomparable sign left right =>
      "'" ++ sign ++ "' not supported between instances of '" ++ left ++ "' and '" ++ right ++ "'"
  | .unwritableKey typeName =>
      "keys must be str, int, float, bool or None, not " ++ typeName
  | .unhashable typeName => "unhashable type: '" ++ typeName ++ "'"
  | .unhashableNumber => "Cannot hash a signaling NaN value"
  | .noMember typeName member =>
      "'" ++ typeName ++ "' object has no attribute '" ++ member ++ "'"
  | .readOnly typeName member =>
      "property '" ++ member ++ "' of '" ++ typeName ++ "' object has no setter"
  | .notWritable typeName member =>
      "attribute '" ++ member ++ "' of '" ++ typeName ++ "' objects is not writable"
  | .notADictionary typeName =>
      "__dict__ must be set to a dictionary, not a '" ++ typeName ++ "'"
  | .notAClass typeName => "__class__ must be set to a class, not '" ++ typeName ++ "' object"
  | .repetitionTooLarge => "the repetition number is too large"
  | .numeralTooLong digits =>
      "Exceeds the limit (4300 digits) for integer string conversion: value has "
        ++ toString digits ++ " digits; use sys.set_int_max_str_digits() to increase the limit"
  | .incompatibleModes => "ASCII and UNICODE flags are incompatible"
  | .lookbehindTooLong => "invalid SRE code"
  | .twistedGroup =>
      "The span of capturing group is wrong, please report a bug for the re module."
  | .notASchema typeName =>
      "schema must be a JsonSchema or a definition mapping, got " ++ typeName
  | .negativeIncrement => "Counters can only be incremented by non-negative amounts."
  | .unknownTypeName quoted => quoted ++ " is not a valid SimpleType"
  | .namelessFormat => "Format name must not be empty"
  | .typelessFormat name => "Format '" ++ name ++ "' must apply to at least one type"
  | .noField record field => "\"" ++ record ++ "\" object has no field \"" ++ field ++ "\""
  | .endless => "maximum recursion depth exceeded"
  | .bytesPatternOnText => "cannot use a bytes pattern on a string-like object"
  | .raised _ message => message

end Fault

end Assay
