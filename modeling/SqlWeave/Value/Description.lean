import SqlWeave.Value.Operations

/-!
# What types tell about themselves

The text about a type and the module that it is from (`Value.description?`), and a type as a value
of its own (`Value.type`). Objects pass on the text about their type; those of the library pass on
the module as well.

Left out is what else types have: their bases, what they keep for instances, and the texts
about single operations.
-/

namespace SqlWeave

/-- What a type tells about itself. -/
structure Description where
  /-- The text about it, line by line; there is none about the type of the missing value. -/
  lines : List String
  /-- The module that it is from. -/
  home : String := "builtins"
  /-- Whether its objects tell the module, too. -/
  isShared : Bool := false

namespace Description

/-- The text as a value. -/
def documentation (d : Description) : Value :=
  if d.lines.isEmpty then .null else .text ("\n".intercalate d.lines)

/-- What the type of a primitive tells. -/
def primitive : Primitive → Description
  | .null => { lines := [] }
  | .bool _ =>
    { lines :=
        ["bool(x) -> bool",
          "",
          "Returns True when the argument x is true, False otherwise.",
          "The builtins True and False are the only two instances of the class bool.",
          "The class bool is a subclass of the class int, and cannot be subclassed."] }
  | .int _ =>
    { lines :=
        ["int([x]) -> integer",
          "int(x, base=10) -> integer",
          "",
          "Convert a number or string to an integer, or return 0 if no arguments",
          "are given.  If x is a number, return x.__int__().  For floating point",
          "numbers, this truncates towards zero.",
          "",
          "If x is not a number or if base is given, then x must be a string,",
          "bytes, or bytearray instance representing an integer literal in the",
          "given base.  The literal can be preceded by '+' or '-' and be surrounded",
          "by whitespace.  The base defaults to 10.  Valid bases are 0 and 2-36.",
          "Base 0 means to interpret the base from the string as an integer literal.",
          ">>> int('0b100', base=0)",
          "4"] }
  | .float _ =>
    { lines := ["Convert a string or number to a floating point number, if possible."] }
  | .text _ =>
    { lines :=
        ["str(object='') -> str",
          "str(bytes_or_buffer[, encoding[, errors]]) -> str",
          "",
          "Create a new string object from the given object. If encoding or",
          "errors is specified, then the object must expose a data buffer",
          "that will be decoded using the given encoding and error handler.",
          "Otherwise, returns the result of object.__str__() (if defined)",
          "or repr(object).",
          "encoding defaults to sys.getdefaultencoding().",
          "errors defaults to 'strict'."] }
  | .bytes _ =>
    { lines :=
        ["bytes(iterable_of_ints) -> bytes",
          "bytes(string, encoding[, errors]) -> bytes",
          "bytes(bytes_or_buffer) -> immutable copy of bytes_or_buffer",
          "bytes(int) -> bytes object of size given by the parameter initialized with null bytes",
          "bytes() -> empty bytes object",
          "",
          "Construct an immutable array of bytes from:",
          "  - an iterable yielding integers in range(256)",
          "  - a text string encoded using the specified encoding",
          "  - any object implementing the buffer API.",
          "  - an integer"] }

/-- What the type of a statement tells. -/
def statement : Bool → Description
  | true =>
    { lines :=
        ["A compiled statement with its single row mapper.",
          "",
          "    Attributes:",
          "        query: Flat SQL text with placeholders.",
          "        values: Deduplicated parameters; entry N binds placeholder N.",
          "        mapper: Applied to each raw row returned by ``all()`` or ``batch()``.",
          "        executor: Executor that runs the statement, if any.",
          "    "]
      home := "fragql.statement.prepared"
      isShared := true }
  | false =>
    { lines :=
        ["A compiled statement without a row mapper.",
          "",
          "    Statements hash by query text and compare by query and values.  Mapped",
          "    variants, bound pairs and backends each receive their own copy of",
          "    ``values``.",
          "",
          "    Attributes:",
          "        query: Flat SQL text with placeholders.",
          "        values: Deduplicated parameters; entry N binds placeholder N.",
          "        executor: Executor that runs the statement, if any.",
          "    "]
      home := "fragql.statement.prepared"
      isShared := true }

end Description

namespace Value

/-- What the type of a value tells about itself, unless the value shows no more than its name. -/
def description? : Value → Option Description
  | primitive p => some (.primitive p)
  | statement _ s => some (.statement s.mapper.isSome)
  | handle .. => none
  | list .. => some
    { lines :=
        ["Built-in mutable sequence.",
          "",
          "If no argument is given, the constructor creates a new empty list.",
          "The argument must be an iterable if specified."] }
  | tuple _ => some
    { lines :=
        ["Built-in immutable sequence.",
          "",
          "If no argument is given, the constructor returns an empty tuple.",
          "If iterable is specified the tuple is initialized from iterable's items.",
          "",
          "If the argument is a tuple, the return value is the same object."] }
  | dict _ => some
    { lines :=
        ["dict() -> new empty dictionary",
          "dict(mapping) -> new dictionary initialized from a mapping object's",
          "    (key, value) pairs",
          "dict(iterable) -> new dictionary initialized as if via:",
          "    d = \x7b\x7d",
          "    for k, v in iterable:",
          "        d[k] = v",
          "dict(**kwargs) -> new dictionary initialized with the name=value pairs",
          "    in the keyword argument list.  For example:  dict(one=1, two=2)"] }
  | record _ => some
    { lines :=
        ["A simple attribute-based namespace.",
          "",
          "SimpleNamespace(**kwargs)"]
      home := "types" }
  | fragment _ => some
    { lines :=
        ["An immutable, reusable piece of templated SQL.",
          "",
          "    Attributes:",
          "        segments: Literal SQL text, one more entry than ``values``.",
          "        values: Interleaved values (primitives, fragments or join lists).",
          "        executor: The executor of the tag that created this fragment.  Only",
          "            used by the ``build``/``all``/``run`` conveniences; it plays no",
          "            part in expansion, so fragments from different tags compose.",
          "    "]
      home := "fragql.template.fragment"
      isShared := true }
  | join _ => some
    { lines := ["Primitives destined to expand as comma-separated placeholders."]
      home := "fragql.template.fragment"
      isShared := true }
  | statistics _ => some
    { lines :=
        ["Execution metadata reported by a backend.",
          "",
          "    Attributes:",
          "        duration: Time the store spent on the statement, in milliseconds.",
          "        changes: Rows inserted, updated or deleted.",
          "        last_row_id: Row id of the last inserted row, when the store has one.",
          "        changed_db: Whether the statement modified the database.",
          "        rows_read: Rows scanned, for stores that report it.",
          "        rows_written: Rows written, for stores that report it.",
          "",
          "    Stores may report extra fields; they are kept as-is.",
          "    "]
      home := "fragql.statement.results"
      isShared := true }
  | run _ => some
    { lines :=
        ["Outcome of executing a statement for effect.",
          "",
          "    Attributes:",
          "        success: Whether the store reported success.",
          "        meta: Execution metadata.",
          "    "]
      home := "fragql.statement.results"
      isShared := true }
  | query .. => some
    { lines :=
        ["Outcome of executing a statement for read.",
          "",
          "    Attributes:",
          "        results: Returned rows, in store order.  After a mapped statement",
          "            executes, each entry is the mapper's output for the raw row.",
          "    "]
      home := "fragql.statement.results"
      isShared := true }

/-- What a value has from its type. -/
def typeAttribute? (name : String) (v : Value) : Option Value :=
  v.description?.bind fun d =>
    if name = "__doc__" then some d.documentation
    else if name = "__module__" && d.isShared then some (text d.home)
    else none

/-- The name of the type of a value's type. -/
def metatypeName : Value → String
  | statistics _ => "ModelMetaclass"
  | run _ => "ModelMetaclass"
  | query .. => "ModelMetaclass"
  | _ => "type"

/-- The type of a value, as an object with a name and with what it tells about itself. -/
def type (v : Value) : Value :=
  .handle none v.metatypeName <| (Operations.nameOf, .text v.typeName) ::
    v.description?.elim [] fun d =>
      [("__qualname__", .text v.typeName), ("__module__", .text d.home),
        ("__doc__", d.documentation)]

/-- A type with an argument: those of lists, tuples and mappings take one of any kind. -/
def withArgument? (v argument : Value) : Option Value :=
  match v with
  | handle _ "type" parts =>
    match parts.find? (·.1 = Operations.nameOf) with
    | some (_, primitive (.text name)) =>
      if ["dict", "list", "tuple"].contains name then
        some (handle none "GenericAlias" [("__origin__", v), ("__args__", tuple [argument])])
      else none
    | _ => none
  | _ => none

end Value

end SqlWeave
