import SqlWeave.Number.Decimal
import SqlWeave.Outcome.Issue
import SqlWeave.Template.Error
import SqlWeave.Text.Clipped
import SqlWeave.Text.Quoted
import SqlWeave.Value.Basic

/-!
# Failures

Every way in which making, building or executing a statement can fail, by its
cause. What comes from outside (a store, a hook, a mapper) is passed through
unchanged (`Failure.raised`). Messages show the names of types clipped, each kind of
message at a length of its own.
-/

namespace SqlWeave

/-- An error raised outside of the library. -/
structure Raised where
  /-- The name of its kind. -/
  kind : String
  /-- Its text. -/
  message : String
  /-- False for the errors that only stop a program, such as an interrupt. -/
  ordinary : Bool := true
  deriving DecidableEq, Repr

/-- A wrong use of the composition primitives. -/
inductive StructuralError where
  /-- So many segments for so many values do not make a fragment. -/
  | segmentMismatch (segments values : Nat)
  /-- A member of a batch is no compiled statement. -/
  | uncompiledMember (position : Nat) (typeName : String)
  /-- A statement has no executor. -/
  | unbound (query : String)
  /-- A store answered a batch with the wrong number of results. -/
  | resultMismatch (expected received : Nat)
  deriving DecidableEq, Repr

namespace StructuralError

/-- The code of a structural error. -/
def code : StructuralError → String
  | segmentMismatch .. => "SEGMENT_MISMATCH"
  | uncompiledMember .. => "UNCOMPILED_BATCH_MEMBER"
  | unbound .. => "UNBOUND_STATEMENT"
  | resultMismatch .. => "BATCH_RESULT_MISMATCH"

/-- The wording of a structural error. -/
def message : StructuralError → String
  | segmentMismatch segments values =>
    s!"A fragment needs {values + 1} literal segments for {values} values, got {segments}."
  | uncompiledMember position typeName =>
    s!"Batch member {position} is a {typeName}, not a compiled statement; " ++
      "call .build() on fragments first."
  | unbound _ => "Statement is not bound to an executor; create fragments through a sql tag."
  | resultMismatch expected received =>
    s!"Backend returned {received} batch results for {expected} statements."

/-- What a structural error tells beside its wording. -/
def details : StructuralError → List (String × Value)
  | segmentMismatch segments values => [("segments", .int segments), ("values", .int values)]
  | uncompiledMember position typeName =>
    [("position", .int position), ("type", .text typeName)]
  | unbound query => [("query", .text query)]
  | resultMismatch expected received => [("expected", .int expected), ("received", .int received)]

end StructuralError

/-- The cause of a failure. -/
inductive Failure where
  /-- A wrong use of the composition primitives. -/
  | structural (error : StructuralError)
  /-- A template that does not become a fragment; the template, if there was one. -/
  | template (error : TemplateError) (template : Option String)
  /-- A field name that is not a path. -/
  | path (error : PathError)
  /-- An interleaved value that cannot be bound. -/
  | unsupported (value : Value)
  /-- A placeholder style that is not registered, and the registered ones. -/
  | unknownStyle (name : String) (registered : List String)
  /-- A report that is not valid as the named kind of outcome. -/
  | invalid (title : String) (issues : List Issue)
  /-- A value has no items where they are wanted one after the other. -/
  | notIterable (typeName : String)
  /-- A value has no items where one of them is wanted. -/
  | notSubscriptable (typeName : String)
  /-- A sequence of a kind is too short for the wanted item. -/
  | indexOutOfRange (kind : String)
  /-- A mapping has nothing under a number. -/
  | missingItem (index : Nat)
  /-- A piece of query text, at its position, is no text. -/
  | notText (position : Nat) (typeName : String)
  /-- A value that is looked through for a text holds no texts. -/
  | textInBytes
  /-- Values of two types have no order; the symbol of the comparison. -/
  | notComparable (symbol left right : String)
  /-- A value that has no hash. -/
  | unhashable (typeName : String)
  /-- A text that should be written as a number; the letter of the wanted format. -/
  | textAsNumber (format : Char)
  /-- A value of a type that cannot be written as a number. -/
  | notFormattable (typeName : String)
  /-- An integer beyond the range of binary64 numbers. -/
  | tooLarge
  /-- A value that is called is not a function. -/
  | notCallable (typeName : String)
  /-- A value does not have the asked operation. -/
  | noOperation (typeName operation : String)
  /-- A named argument has the name of a parameter that is given by its place. -/
  | repeatedArgument (operation name : String)
  /-- A named argument is given twice. -/
  | repeatedKeyword (operation name : String)
  /-- An operation that takes one or two positional arguments is given more. -/
  | excessArguments (operation : String) (given : Nat)
  /-- The library that engines need is not installed. -/
  | engineMissing
  /-- A name that nothing has. -/
  | undefined (name : String)
  /-- The name of a type has a NUL in it. -/
  | nullInName
  /-- The name of a type is no text, but a value of a type itself. -/
  | notTypeName (typeName : String)
  /-- An integer is given by something else than digits. -/
  | notDigits (text : String)
  /-- An integer is given by a value of a type that no integer is read from. -/
  | notInteger (typeName : String)
  /-- An integer is given by more digits than are read. -/
  | tooManyDigits (count : Nat)
  /-- An integer has more digits than are written. -/
  | tooLong
  /-- Bytes are given by something else than pairs of hexadecimal digits, from this position
  on. -/
  | notHexadecimal (position : Nat)
  /-- A binary64 number is given by more or fewer than eight bytes. -/
  | notEightBytes
  /-- A record of the log has a level that is no integer. -/
  | levelNotInteger
  /-- An error from outside. -/
  | raised (error : Raised)

namespace Failure

/-- Whether the failure is one that ordinary handlers see. -/
def ordinary : Failure → Bool
  | raised e => e.ordinary
  | _ => true

/-- The wording of a failure; of an invalid report, its issues tell instead. -/
def message : Failure → String
  | structural e => e.message
  | template e _ => e.message
  | path e => e.message
  | unsupported v =>
    "Cannot bind a value of type " ++ Text.Quoted.encode v.typeName ++
      "; expected str, int, float, bool, bytes, None, a fragment or a join list."
  | unknownStyle name registered =>
    "Unknown placeholder style: '" ++ name ++ "'. Registered styles: " ++
      Text.Quoted.encodeList registered ++ "."
  | invalid _ issues => "\n".intercalate (issues.map (·.complaint.message))
  | notIterable typeName => "'" ++ Text.clip 200 typeName ++ "' object is not iterable"
  | notSubscriptable typeName => "'" ++ Text.clip 200 typeName ++ "' object is not subscriptable"
  | indexOutOfRange kind => (if kind.isEmpty then "" else kind ++ " ") ++ "index out of range"
  | missingItem index => toString index
  | notText position typeName =>
    "sequence item " ++ toString position ++ ": expected str instance, " ++
      Text.clip 80 typeName ++ " found"
  | textInBytes => "a bytes-like object is required, not 'str'"
  | notComparable symbol left right =>
    "'" ++ symbol ++ "' not supported between instances of '" ++ Text.clip 100 left ++
      "' and '" ++ Text.clip 100 right ++ "'"
  | unhashable typeName => "unhashable type: '" ++ Text.clip 200 typeName ++ "'"
  | textAsNumber format =>
    s!"Unknown format code '{String.singleton format}' for object of type 'str'"
  | notFormattable typeName =>
    "unsupported format string passed to " ++ Text.clip 200 typeName ++ ".__format__"
  | tooLarge => "int too large to convert to float"
  | notCallable typeName => "'" ++ Text.clip 200 typeName ++ "' object is not callable"
  | noOperation typeName operation =>
    "'" ++ Text.clip 50 typeName ++ "' object has no attribute '" ++ operation ++ "'"
  | repeatedArgument operation name =>
    s!"{operation}() got multiple values for argument '{name}'"
  | repeatedKeyword operation name =>
    s!"{operation}() got multiple values for keyword argument '{name}'"
  | excessArguments operation given =>
    s!"{operation}() takes from 1 to 2 positional arguments but {given} were given"
  | engineMissing =>
    "SQLAlchemy is required for SQLAlchemyBackend. " ++
      "Install it with: pip install \"fragql[sqlalchemy]\""
  | undefined name => Text.Quoted.encode name
  | nullInName => "type name must not contain null characters"
  | notTypeName typeName =>
    "type.__new__() argument 1 must be str, not " ++
      if typeName = Primitive.null.typeName then "None" else Text.clip 50 typeName
  | notInteger typeName =>
    "int() argument must be a string, a bytes-like object or a real number, not '" ++
      Text.clip 200 typeName ++ "'"
  | notHexadecimal position =>
    s!"non-hexadecimal number found in fromhex() arg at position {position}"
  | notEightBytes => "unpack requires a buffer of 8 bytes"
  | levelNotInteger => "level must be an integer"
  | notDigits text =>
    "invalid literal for int() with base 10: " ++
      String.ofList ((Text.Quoted.encode text).toList.take 200)
  | tooManyDigits count =>
    s!"Exceeds the limit ({Decimal.integerLimit} digits) for integer string conversion: " ++
      s!"value has {count} digits; use sys.set_int_max_str_digits() to increase the limit"
  | tooLong =>
    s!"Exceeds the limit ({Decimal.integerLimit} digits) for integer string conversion; " ++
      "use sys.set_int_max_str_digits() to increase the limit"
  | raised e => e.message

end Failure

end SqlWeave
