import SqlWeave.Execution.Executor

/-!
# Tag options

The hooks of a tag. They come as options, which are checked when they are made,
and as keywords, which take precedence and are not checked: a keyword hook that
is no function fails when it is called.
-/

namespace SqlWeave

/-- What is given for a hook. -/
inductive HookArgument (κ : Type) where
  /-- A hook. -/
  | hook (hook : κ)
  /-- A value that is no function; the missing value stands for no hook. -/
  | plain (value : Value)

/-- Options as they are given. -/
structure OptionFields where
  /-- The hook before a dispatch. -/
  before : Option (HookArgument BeforeHook) := none
  /-- The hook after a dispatch. -/
  after : Option (HookArgument AfterHook) := none
  /-- Further fields; one with the name of a hook stands for the hook. -/
  extra : List (String × Value) := []

/-- Checked options. -/
structure TagOptions where
  /-- The hook before a dispatch. -/
  before : Option BeforeHook := none
  /-- The hook after a dispatch. -/
  after : Option AfterHook := none

namespace TagOptions

/-- What the options are called. -/
def title : String := "TagOptions"

/-- The operation of making options. -/
def makeName : String := "fragql.execute.options.TagOptions"

/-- The name of the hook before a dispatch. -/
def beforeName : String := "before_query"

/-- The name of the hook after a dispatch. -/
def afterName : String := "after_query"

/-- A hook that has to be one, or the missing value. -/
def checkHook {κ : Type} (name : String) : Option (HookArgument κ) → Checked (Option κ)
  | none => .ok none
  | some (.hook h) => .ok (some h)
  | some (.plain (.primitive .null)) => .ok none
  | some (.plain _) => .error [⟨[.name name], .notCallable⟩]

/-- What is given for a hook: a further field of its name, else the hook itself. -/
def given {κ : Type} (name : String) (hook : Option (HookArgument κ))
    (extra : List (String × Value)) : Option (HookArgument κ) :=
  match extra.find? (·.1 = name) with
  | some field => some (.plain field.2)
  | none => hook

/-- Refuses a further field with the name of a hook that is given as well. -/
def checkNames (fields : OptionFields) : Except Failure Unit :=
  let taken := fields.before.toList.map (fun _ => beforeName) ++
    fields.after.toList.map (fun _ => afterName)
  match fields.extra.find? fun e => taken.contains e.1 with
  | some e => .error (.repeatedKeyword makeName e.1)
  | none => .ok ()

/-- The further fields that are no hooks. -/
def unknown (extra : List (String × Value)) : List Issue :=
  (extra.filter fun e => e.1 ≠ beforeName && e.1 ≠ afterName).map
    fun e => ⟨[.name e.1], .unknownField⟩

/-- Checks options. -/
def check (fields : OptionFields) : Except Failure TagOptions := do
  checkNames fields
  let before := checkHook beforeName (given beforeName fields.before fields.extra)
  let after := checkHook afterName (given afterName fields.after fields.extra)
  match before, after, unknown fields.extra with
  | .ok before, .ok after, [] => .ok { before, after }
  | before, after, unknown =>
    .error (.invalid title (before.issues ++ after.issues ++ unknown))

/-- A hook given as a keyword, else the one of the options. -/
def override {κ : Type} (inert : String → κ) (keyword : Option (HookArgument κ))
    (hook : Option κ) : Option κ :=
  match keyword with
  | none => hook
  | some (.hook h) => some h
  | some (.plain (.primitive .null)) => hook
  | some (.plain v) => some (inert v.fullTypeName)

end TagOptions

end SqlWeave
