/-!
# Template errors

Why a template is refused. Three layers report different things: the grammar of
templates (`SyntaxError`), the rules that templates of query text add to it
(`TemplateError`), and the grammar of field names (`PathError`).
-/

namespace SqlWeave

/-- Why a text is not a template. -/
inductive SyntaxError where
  /-- An opening brace ends the text. -/
  | singleOpen
  /-- A closing brace stands alone. -/
  | singleClose
  /-- An opening brace stands in a field name. -/
  | openInName
  /-- The text ends in a field name. -/
  | unclosedField
  /-- The text ends where a conversion is due. -/
  | missingConversion
  /-- Neither a spec nor the end of the field follows a conversion. -/
  | afterConversion
  /-- The text ends in a format spec. -/
  | unclosedSpec
  deriving DecidableEq, Repr

namespace SyntaxError

/-- The wording of a syntax error. -/
def message : SyntaxError → String
  | singleOpen => "Single '\x7b' encountered in format string"
  | singleClose => "Single '\x7d' encountered in format string"
  | openInName => "unexpected '\x7b' in field name"
  | unclosedField => "expected '\x7d' before end of string"
  | missingConversion => "end of string while looking for conversion specifier"
  | afterConversion => "expected ':' after conversion specifier"
  | unclosedSpec => "unmatched '\x7b' in format spec"

end SyntaxError

/-- Why a field name is not a path. -/
inductive PathError where
  /-- An attribute name or a key is empty. -/
  | emptyStep
  /-- Neither a point nor a bracket follows a closing bracket. -/
  | textAfterBracket
  /-- A bracket is not closed. -/
  | unclosedBracket
  /-- A decimal index is above the greatest one. -/
  | indexTooLarge
  deriving DecidableEq, Repr

namespace PathError

/-- The wording of a path error. -/
def message : PathError → String
  | emptyStep => "Empty attribute in format string"
  | textAfterBracket => "Only '.' or '[' may follow ']' in format field specifier"
  | unclosedBracket => "Missing ']' in format string"
  | indexTooLarge => "Too many decimal digits in format string"

end PathError

/-- Why a template does not become a fragment. -/
inductive TemplateError where
  /-- The text is not a template. -/
  | invalid (cause : SyntaxError)
  /-- A field has a format spec or a conversion. -/
  | formatted (field : String)
  /-- An automatic field follows a numbered one. -/
  | automaticAfterManual
  /-- A numbered field follows an automatic one. -/
  | manualAfterAutomatic
  /-- A field, with its number in front if it is automatic, has no argument. -/
  | missingArgument (field : String)
  /-- Named arguments stand with a list of segments. -/
  | keywordsWithSegments
  deriving DecidableEq, Repr

namespace TemplateError

/-- The wording of a template error. -/
def message : TemplateError → String
  | invalid cause => "Invalid template: " ++ cause.message
  | formatted field =>
    "Replacement field \x7b" ++ field ++ "\x7d may not use a format spec or conversion."
  | automaticAfterManual =>
    "Cannot switch from manual field numbering to automatic numbering."
  | manualAfterAutomatic =>
    "Cannot switch from automatic field numbering to manual numbering."
  | missingArgument field => "No argument for replacement field \x7b" ++ field ++ "\x7d."
  | keywordsWithSegments =>
    "Keyword arguments are only accepted together with a format-string template."

end TemplateError

end SqlWeave
