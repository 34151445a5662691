import Assay.Format.Registry

/-!
What the library says of itself.
-/

namespace Assay.About

/-- The version of the library. -/
def version : String := "1.0.0"

/-- The names that users of the library can ask for, in order. -/
def exports : List String :=
  ["AdditionalProperties", "ArraySchema", "ErrorMessage", "FormatChecker", "FormatRegistry",
    "JsonConformConfig", "JsonConformException", "JsonSchema", "JsonValueKind",
    "ObjectSchema", "PROMETHEUS_AVAILABLE", "SchemaCompilationError", "SchemaCompiler",
    "SchemaConfigurationError", "SchemaValidator", "SimpleType", "SimpleTypeSchema",
    "ValidationReport", "ValidatorStatistics", "__version__", "get_config",
    "get_default_registry", "json_kind", "reset_config", "set_config"]

/-- The names of the built-in formats, in the order in which they are explained. -/
def formatNames : List String :=
  [FormatRegistry.dateTime, FormatRegistry.date, FormatRegistry.time, FormatRegistry.regex,
    FormatRegistry.uri, FormatRegistry.utcMillisec]

end Assay.About
