import WireBridge.Text.Lines

/-!
# Support package of generated code

Generated modules import a small package: its error classes and the matching of enum names. `supportFiles` are its
files by name, as they are written next to a generated module.
-/

set_option autoImplicit false

namespace WireBridge

/-- The names that the package offers. -/
def packageFile : List String :=
  [
    "\"\"\"Runtime support for generated wiremap conversions.\"\"\"",
    "",
    "from .enums import candidate_names as candidate_names",
    "from .enums import enum_from_wire as enum_from_wire",
    "from .enums import enum_to_wire as enum_to_wire",
    "from .enums import match_from_wire as match_from_wire",
    "from .enums import match_to_wire as match_to_wire",
    "from .enums import screaming_snake as screaming_snake",
    "from .errors import ConversionError as ConversionError",
    "from .errors import ConversionPanic as ConversionPanic",
    "from .errors import EnumDriftError as EnumDriftError",
    "from .errors import MissingFieldError as MissingFieldError",
    "from .errors import check_error as check_error"]

/-- The error classes, and the check of an error against its class. -/
def errorsFile : List String :=
  [
    "\"\"\"Exceptions raised by generated conversions.\"\"\"",
    "",
    "from typing import TypeVar",
    "",
    "",
    "class ConversionError(RuntimeError):",
    "    \"\"\"Raised when a wire value cannot be converted to its native type.\"\"\"",
    "",
    "",
    "class MissingFieldError(ConversionError):",
    "    \"\"\"Raised when a required wire field is absent.",
    "",
    "    Generated per-record error types derive from this class.",
    "    \"\"\"",
    "",
    "    def __init__(self, field: str) -> None:",
    "        self.field = field",
    "        super().__init__(f\"Missing required field: \x7bfield\x7d\")",
    "",
    "",
    "class ConversionPanic(RuntimeError):",
    "    \"\"\"Raised when a wire value violates the conversion contract.",
    "",
    "    Not meant to be handled as an ordinary conversion error.",
    "    \"\"\"",
    "",
    "",
    "class EnumDriftError(ConversionPanic):",
    "    \"\"\"Raised when a native and a wire enum no longer share a variant name.\"\"\"",
    "",
    "",
    "TError = TypeVar(\"TError\", bound=BaseException)",
    "",
    "",
    "def check_error(error: BaseException, error_type: type[TError]) -> TError:",
    "    \"\"\"Ensure an error function produced the record's declared error type.\"\"\"",
    "    if not isinstance(error, error_type):",
    "        raise TypeError(",
    "            f\"error function returned \x7btype(error).__name__\x7d, expected \x7berror_type.__name__\x7d\"",
    "        )",
    "    return error"]

/-- The matching of enum names. -/
def enumsFile : List String :=
  [
    "\"\"\"Name based matching between native and wire enum variants.\"\"\"",
    "",
    "from enum import Enum",
    "from typing import Any, TypeVar",
    "",
    "from .errors import EnumDriftError",
    "",
    "TEnum = TypeVar(\"TEnum\", bound=Enum)",
    "",
    "",
    "def screaming_snake(name: str) -> str:",
    "    \"\"\"Convert a variant name to SCREAMING_SNAKE_CASE.",
    "",
    "    Every uppercase letter after the first starts a new word.",
    "    \"\"\"",
    "    out: list[str] = []",
    "    for i, c in enumerate(name):",
    "        if c.isupper() and i > 0:",
    "            out.append(\"_\")",
    "        out.append(c.upper())",
    "    return \"\".join(out)",
    "",
    "",
    "def candidate_names(enum_name: str, variant: str) -> tuple[str, ...]:",
    "    \"\"\"Return the wire names a native variant may appear under, in match order.\"\"\"",
    "    return (variant, f\"\x7benum_name.upper()\x7d_\x7bscreaming_snake(variant)\x7d\")",
    "",
    "",
    "def wire_name(wire_enum: Any, value: Any) -> str:",
    "    \"\"\"Return the symbolic name of a wire enum value.",
    "",
    "    Accepts ``enum.Enum`` members and the integer values used by protobuf",
    "    enum wrappers.",
    "    \"\"\"",
    "    if isinstance(value, Enum):",
    "        return value.name",
    "    if hasattr(wire_enum, \"Name\"):",
    "        try:",
    "            return wire_enum.Name(value)",
    "        except ValueError:",
    "            pass",
    "    return str(value)",
    "",
    "",
    "def wire_member(wire_enum: Any, name: str) -> Any | None:",
    "    \"\"\"Look up a wire enum value by name, or None if the wire enum has no such name.\"\"\"",
    "    if isinstance(wire_enum, type) and issubclass(wire_enum, Enum):",
    "        return wire_enum.__members__.get(name)",
    "    if hasattr(wire_enum, \"Value\"):",
    "        try:",
    "            return wire_enum.Value(name)",
    "        except ValueError:",
    "            return None",
    "    return None",
    "",
    "",
    "def match_from_wire(table: dict[str, TEnum], wire_enum: Any, value: Any, enum_name: str) -> TEnum:",
    "    \"\"\"Resolve a wire value through a name table built from candidate names.\"\"\"",
    "    name = wire_name(wire_enum, value)",
    "    try:",
    "        return table[name]",
    "    except KeyError:",
    "        raise EnumDriftError(f\"No matching \x7benum_name\x7d variant for wire value \x7bname\x7d\") from None",
    "",
    "",
    "def match_to_wire(wire_enum: Any, candidates: tuple[str, ...], variant: Enum) -> Any:",
    "    \"\"\"Return the first wire value named by one of a variant's candidates.\"\"\"",
    "    for candidate in candidates:",
    "        member = wire_member(wire_enum, candidate)",
    "        if member is not None:",
    "            return member",
    "    raise EnumDriftError(f\"No matching wire variant for \x7btype(variant).__name__\x7d.\x7bvariant.name\x7d\")",
    "",
    "",
    "def enum_from_wire(native_enum: type[TEnum], wire_enum: Any, value: Any) -> TEnum:",
    "    \"\"\"Convert a wire value to a variant of an enum not declared in the definition file.\"\"\"",
    "    table: dict[str, TEnum] = \x7b\x7d",
    "    for variant in native_enum:",
    "        for candidate in candidate_names(native_enum.__name__, variant.name):",
    "            table.setdefault(candidate, variant)",
    "    return match_from_wire(table, wire_enum, value, native_enum.__name__)",
    "",
    "",
    "def enum_to_wire(wire_enum: Any, variant: Enum) -> Any:",
    "    \"\"\"Convert a variant of an enum not declared in the definition file to its wire value.\"\"\"",
    "    return match_to_wire(wire_enum, candidate_names(type(variant).__name__, variant.name), variant)"]

/-- The files of the support package, by name. -/
def supportFiles : List (String × String) :=
  [("__init__.py", packageFile), ("errors.py", errorsFile), ("enums.py", enumsFile)].map fun (name, lines) =>
    (name, Text.joinLines lines ++ "\n")

end WireBridge
