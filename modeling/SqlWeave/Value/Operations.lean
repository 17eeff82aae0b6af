import SqlWeave.Value.Basic

/-!
# Operations of values

What a value can do, by name. An operation can be asked for like any other part of a value,
and then it is there as an object of a type of its own: there is nothing to see of it but
that type and its name. Main definitions:

* `Value.operations` are the tables of names;
* `Value.operation?` is the operation of a name.

Left out is what operations have in turn, but for their names and what all objects can do.
-/

namespace SqlWeave

/-- The names of operations, by the types of what stands under them. -/
structure Operations where
  /-- Operations that are defined along with a type. -/
  methods : List String := []
  /-- Operations that come with a type. -/
  functions : List String := []
  /-- Operations behind the symbols of arithmetic, comparison and access. -/
  wrappers : List String := []
  /-- Operations that the type does without; the missing value stands under their names. -/
  without : List String := []

namespace Operations

/-- Where the name of an operation is told. -/
def nameOf : String := "__name__"

/-- An operation: an object of a type, with a name. -/
def toValue (typeName name : String) : Value := .handle none typeName [(nameOf, .text name)]

/-- What stands under a name. -/
def find? (name : String) (o : Operations) : Option Value :=
  if o.methods.contains name then some (toValue "method" name)
  else if o.without.contains name then some .null
  else if o.wrappers.contains name then some (toValue "method-wrapper" name)
  else if o.functions.contains name then some (toValue "builtin_function_or_method" name)
  else none

/-- What all objects have. -/
def object : Operations where
  functions :=
    ["__dir__", "__format__", "__getstate__", "__init_subclass__", "__new__", "__reduce__",
      "__reduce_ex__", "__sizeof__", "__subclasshook__"]
  wrappers :=
    ["__delattr__", "__eq__", "__ge__", "__getattribute__", "__gt__", "__hash__", "__init__",
      "__le__", "__lt__", "__ne__", "__repr__", "__setattr__", "__str__"]

/-- What the missing value has. -/
def null : Operations := { object with wrappers := "__bool__" :: object.wrappers }

/-- The arithmetic of all numbers. -/
def arithmetic : List String :=
  ["__abs__", "__add__", "__bool__", "__divmod__", "__float__", "__floordiv__", "__int__",
    "__mod__", "__mul__", "__neg__", "__pos__", "__pow__", "__radd__", "__rdivmod__",
    "__rfloordiv__", "__rmod__", "__rmul__", "__rpow__", "__rsub__", "__rtruediv__", "__sub__",
    "__truediv__"]

/-- The roundings of all numbers, and how they are copied. -/
def roundings : List String :=
  ["__ceil__", "__floor__", "__getnewargs__", "__round__", "__trunc__", "as_integer_ratio",
    "conjugate"]

/-- What integers have, and truth values with them. -/
def integer : Operations where
  functions :=
    object.functions ++ roundings ++ ["bit_count", "bit_length", "from_bytes", "to_bytes"]
  wrappers :=
    object.wrappers ++ arithmetic ++
      ["__and__", "__index__", "__invert__", "__lshift__", "__or__", "__rand__", "__rlshift__",
        "__ror__", "__rrshift__", "__rshift__", "__rxor__", "__xor__"]

/-- What binary64 numbers have. -/
def float : Operations where
  functions :=
    object.functions ++ roundings ++ ["__getformat__", "fromhex", "hex", "is_integer"]
  wrappers := object.wrappers ++ arithmetic

/-- What all sequences have behind symbols. -/
def sequence : List String :=
  ["__add__", "__contains__", "__iter__", "__len__", "__mul__", "__rmul__"]

/-- What texts and byte strings both have. -/
def characters : List String :=
  ["__getnewargs__", "capitalize", "center", "count", "endswith", "expandtabs", "find", "index",
    "isalnum", "isalpha", "isascii", "isdigit", "islower", "isspace", "istitle", "isupper",
    "join", "ljust", "lower", "lstrip", "maketrans", "partition", "removeprefix",
    "removesuffix", "replace", "rfind", "rindex", "rjust", "rpartition", "rsplit", "rstrip",
    "split", "splitlines", "startswith", "strip", "swapcase", "title", "translate", "upper",
    "zfill"]

/-- What texts and byte strings both have behind symbols. -/
def characterSymbols : List String :=
  object.wrappers ++ sequence ++ ["__getitem__", "__mod__", "__rmod__"]

/-- What texts have. -/
def text : Operations where
  functions :=
    object.functions ++ characters ++
      ["casefold", "encode", "format", "format_map", "isdecimal", "isidentifier", "isnumeric",
        "isprintable"]
  wrappers := characterSymbols

/-- What byte strings have. -/
def bytes : Operations where
  functions := object.functions ++ characters ++ ["__bytes__", "decode", "fromhex", "hex"]
  wrappers := characterSymbols

/-- What lists have. -/
def list : Operations where
  functions :=
    object.functions ++
      ["__class_getitem__", "__getitem__", "__reversed__", "append", "clear", "copy", "count",
        "extend", "index", "insert", "pop", "remove", "reverse", "sort"]
  wrappers := object.wrappers ++ sequence ++ ["__delitem__", "__iadd__", "__imul__", "__setitem__"]
  without := ["__hash__"]

/-- What tuples have. -/
def tuple : Operations where
  functions := object.functions ++ ["__class_getitem__", "__getnewargs__", "count", "index"]
  wrappers := object.wrappers ++ sequence ++ ["__getitem__"]

/-- What mappings have. -/
def dict : Operations where
  functions :=
    object.functions ++
      ["__class_getitem__", "__contains__", "__getitem__", "__reversed__", "clear", "copy",
        "fromkeys", "get", "items", "keys", "pop", "popitem", "setdefault", "update", "values"]
  wrappers :=
    object.wrappers ++
      ["__delitem__", "__ior__", "__iter__", "__len__", "__or__", "__ror__", "__setitem__"]
  without := ["__hash__"]

/-- What objects with named attributes have. -/
def record : Operations := { object with without := ["__hash__"] }

/-- What every type has that cannot change and compares by its parts. -/
def frozen : List String :=
  ["__delattr__", "__eq__", "__hash__", "__init__", "__repr__", "__setattr__"]

/-- What fragments have. -/
def fragment : Operations :=
  { object with methods := frozen ++ ["__post_init__", "all", "build", "run"] }

/-- What join lists have. -/
def join : Operations :=
  { object with methods := frozen ++ ["__len__", "__post_init__", "as_fragment"] }

/-- What statements have; only one without a mapper takes one. -/
def statement (isMapped : Bool) : Operations :=
  { object with
    methods :=
      frozen ++ ["__class_getitem__", "__init_subclass__", "_require_executor", "all", "bound",
        "run"] ++ if isMapped then [] else ["compile", "map"] }

/-- What outcomes and statistics have. -/
def outcome : Operations :=
  { object with
    methods :=
      ["__class_getitem__", "__copy__", "__deepcopy__", "__delattr__", "__eq__", "__getattr__",
        "__getstate__", "__init__", "__iter__", "__pretty__", "__replace__", "__repr__",
        "__repr_args__", "__repr_name__", "__repr_str__", "__rich_repr__", "__setattr__",
        "__setstate__", "__str__", "construct", "copy", "dict", "from_orm", "json",
        "model_construct", "model_copy", "model_dump", "model_dump_json", "model_json_schema",
        "model_parametrized_name", "model_post_init", "model_rebuild", "model_validate",
        "model_validate_json", "model_validate_strings", "parse_file", "parse_obj", "parse_raw",
        "schema", "schema_json", "update_forward_refs", "validate"]
    without := ["__hash__"] }

/-- What outcomes with rows have. -/
def query : Operations := { outcome with methods := "apply_mapper" :: outcome.methods }

end Operations

namespace Value

/-- The operations of a value. -/
def operations : Value → Operations
  | primitive .null => .null
  | primitive (.bool _) => .integer
  | primitive (.int _) => .integer
  | primitive (.float _) => .float
  | primitive (.text _) => .text
  | primitive (.bytes _) => .bytes
  | list .. => .list
  | tuple _ => .tuple
  | dict _ => .dict
  | record _ => .record
  | handle .. => .object
  | fragment _ => .fragment
  | join _ => .join
  | statistics _ => .outcome
  | run _ => .outcome
  | query .. => .query
  | statement _ s => .statement s.mapper.isSome

/-- The operation of a name. -/
def operation? (name : String) (v : Value) : Option Value := v.operations.find? name

end Value

end SqlWeave
