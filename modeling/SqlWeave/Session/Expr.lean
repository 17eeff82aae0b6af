import SqlWeave.Fragment.Lookalike
import SqlWeave.Outcome.Coercion
import SqlWeave.Session.Scope
import SqlWeave.Template.Filling
import SqlWeave.Text.Hexadecimal
import SqlWeave.Value.Hash

/-!
# Expressions

How the values of a session are written down. An expression is evaluated in a scope,
from left to right and from the inside out; the first part that fails is the failure
of the whole.
-/

namespace SqlWeave

/-- The kinds of outcome that can be made of fields. -/
inductive OutcomeKind where
  /-- Statistics. -/
  | statistics
  /-- An outcome without rows. -/
  | run
  /-- An outcome with rows. -/
  | query
  deriving DecidableEq

/-- An expression for a value. -/
inductive Expr where
  /-- A primitive. -/
  | primitive (p : Primitive)
  /-- An integer by its digits, or by a number. -/
  | digits (given : Value)
  /-- Bytes by their hexadecimal digits. -/
  | bytes (text : String)
  /-- A binary64 number by the hexadecimal digits of its eight bytes. -/
  | float (text : String)
  /-- A list. -/
  | list (items : List Expr)
  /-- A tuple of the items of a value. -/
  | tuple (source : Expr)
  /-- A mapping. -/
  | dict (entries : List (Expr × Expr))
  /-- An object with named attributes. -/
  | record (fields : List (String × Expr))
  /-- An object of a type of this name. -/
  | handle (typeName : Value)
  /-- A named value. -/
  | name (name : String)
  /-- A join list of the items of a value. -/
  | join (source : Expr)
  /-- A fragment without an executor, its segments the items of a value. -/
  | fragment (segments : Value) (values : List Expr)
  /-- A tag applied to a template. -/
  | template (tag : String) (template : String) (args : List Expr) (kwargs : List (String × Expr))
  /-- A tag applied to literal segments, the items of a value. -/
  | segments (tag : String) (segments : Value) (args : List Expr) (kwargs : List (String × Expr))
  /-- An outcome of a named type, made of fields. -/
  | outcome (typeName : String) (fields : List (String × Expr))

/-- The kind of outcome of a type name. -/
def OutcomeKind.ofName (typeName : String) : Except Failure OutcomeKind :=
  if typeName = Statistics.title then .ok .statistics
  else if typeName = RunOutcome.title then .ok .run
  else if typeName = QueryOutcome.title then .ok .query
  else .error (.undefined typeName)

namespace Expr

/-- An outcome made of named fields. -/
def makeOutcome (kind : OutcomeKind) (fields : List (String × Value)) : Except Failure Value :=
  let entries := fields.map fun (field, v) => (Value.text field, v)
  match kind with
  | .statistics => (Outcome.valid Statistics.title (Statistics.check entries)).map .statistics
  | .run => (Outcome.valid RunOutcome.title (RunOutcome.check entries)).map .run
  | .query => (Outcome.valid QueryOutcome.title (QueryOutcome.check entries)).map (.query none)

/-- Refuses a named argument that has one of the names `taken` by parameters that are
given by their places. -/
def checkNames (operation : String) (taken : List String) (kwargs : List (String × Value)) :
    Except Failure Unit :=
  match kwargs.find? fun e => taken.contains e.1 with
  | some e => .error (.repeatedArgument operation e.1)
  | none => .ok ()

/-- The operation of applying a tag. -/
def applyName : String := "SqlTag.__call__"

/-- The parameters of applying a tag that are given by their places. -/
def applyParameters : List String := ["self", "template"]

/-- A fragment of values and of the items of a value as its segments. -/
def makeFragment (origin : Option Origin) (segments : Value) (values : List Value) :
    Except Failure Value := do
  let segments ← segments.items
  Fragment.assemble origin segments values

/-- A tag applied to literal segments; named arguments are refused first. -/
def applySegments (origin : Origin) (segments : Value) (args : List Value)
    (kwargs : List (String × Value)) : Except Failure Value :=
  if kwargs.isEmpty then makeFragment (some origin) segments args
  else .error (.template .keywordsWithSegments none)

/-- The integer of decimal digits of any script, which single underscores may divide, with
a sign and white space around. There is a limit on the number of digits. -/
def readDigits (text : String) : Except Failure Value :=
  let (negative, cs) := Decimal.takeSign (Text.trim text.toList)
  let ds := (Decimal.dropUnderscores? cs).getD []
  let count := (ds.takeWhile fun c => (Text.decimalValue? c).isSome).length
  if Decimal.integerLimit < count then .error (.tooManyDigits count)
  else
    match ds, Decimal.readNatBy? Text.decimalValue? ds with
    | _ :: _, some n => .ok (.int (if negative then -(n : Int) else n))
    | _, _ => .error (.notDigits text)

/-- An integer by its digits, or by a number, which is cut off at its point. -/
def readInteger : Value → Except Failure Value
  | .primitive (.text text) => readDigits text
  | .primitive (.float x) => .ok (.int x.truncate)
  | .primitive p =>
    match p.integer? with
    | some n => .ok (.int n)
    | none => .error (.notInteger p.typeName)
  | v => .error (.notInteger v.typeName)

/-- Bytes by their hexadecimal digits. -/
def readBytes (text : String) : Except Failure (List UInt8) :=
  match Text.Hexadecimal.decode text.toList with
  | .ok bs => .ok bs
  | .error position => .error (.notHexadecimal position)

/-- A binary64 number by its eight bytes, the highest first. -/
def readFloat (text : String) : Except Failure Value := do
  let bs ← readBytes text
  if bs.length = 8 then
    .ok (.primitive (.float (.ofBits (bs.foldl (fun bits b => bits * 256 + b.toUInt64) 0))))
  else .error .notEightBytes

/-- The name of a type, which has to be a text without NUL. -/
def checkTypeName : Value → Except Failure String
  | .primitive (.text s) => if s.toList.contains '\x00' then .error .nullInName else .ok s
  | v => .error (.notTypeName v.typeName)

/-- A new object of a type of this name. -/
def makeHandle (typeName : Value) : Except Failure Value :=
  (checkTypeName typeName).map fun s => .handle none s []

variable (scope : Scope)

mutual

/-- Evaluates an expression. -/
def eval : Expr → Except Failure Value
  | primitive p => .ok (.primitive p)
  | digits given => readInteger given
  | bytes text => (readBytes text).map fun bs => .primitive (.bytes bs)
  | float text => readFloat text
  | list items => do
    let vs ← evalAll items
    .ok (.ofList vs)
  | tuple source => do
    let v ← eval source
    let vs ← v.items
    .ok (.tuple vs)
  | dict entries => do
    let es ← evalEntries entries
    .ok (Value.dictOf es)
  | record fields => do
    let fs ← evalFields fields
    .ok (Value.recordOf fs)
  | handle typeName => makeHandle typeName
  | name n => scope.value n
  | join source => do
    let v ← eval source
    let vs ← v.items
    .ok (.join vs)
  | fragment given values => do
    let vs ← evalAll values
    makeFragment none given vs
  | template tag text args kwargs => do
    let origin ← scope.tag tag
    let vs ← evalAll args
    let ks ← evalFields kwargs
    checkNames applyName applyParameters ks
    let f ← Template.toFragment (some origin) text vs ks
    .ok (.fragment f)
  | segments tag given args kwargs => do
    let origin ← scope.tag tag
    let vs ← evalAll args
    let ks ← evalFields kwargs
    checkNames applyName applyParameters ks
    applySegments origin given vs ks
  | outcome typeName fields => do
    let kind ← OutcomeKind.ofName typeName
    let fs ← evalFields fields
    makeOutcome kind fs
termination_by structural e => e

/-- Evaluates expressions from left to right. -/
def evalAll : List Expr → Except Failure (List Value)
  | [] => .ok []
  | e :: es => do
    let v ← eval e
    let vs ← evalAll es
    .ok (v :: vs)
termination_by structural es => es

/-- Evaluates the entries of a mapping, each key before its value; then the key has to
have a hash. -/
def evalEntries : List (Expr × Expr) → Except Failure (List (Value × Value))
  | [] => .ok []
  | (k, e) :: es => do
    let key ← eval k
    let v ← eval e
    let _ ← key.hash
    let vs ← evalEntries es
    .ok ((key, v) :: vs)
termination_by structural es => es

/-- Evaluates named expressions from left to right. -/
def evalFields : List (String × Expr) → Except Failure (List (String × Value))
  | [] => .ok []
  | (field, e) :: es => do
    let v ← eval e
    let vs ← evalFields es
    .ok ((field, v) :: vs)
termination_by structural es => es

end

end Expr

end SqlWeave
