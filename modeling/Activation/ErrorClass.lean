/-!
# Classes of errors

A fault is raised as an error of some class. The library has classes of its own: a document at
fault is a **validation error**, a declaration at fault a **configuration error**, and two of the
causes of the latter have classes of their own. The other classes are those of the system that
files and values belong to.
-/

namespace Activation

/-- The classes of errors as which faults are raised. -/
inductive ErrorClass where
  | config
  | conflictingAttributes
  | missingAttribute
  | validation
  | type
  | value
  | fileNotFound
  | isADirectory
  | unicodeDecode
deriving DecidableEq

namespace ErrorClass

/-- The name of a class. -/
def name : ErrorClass → String
  | .config => "OnPropertyConfigError"
  | .conflictingAttributes => "ConflictingAttributesError"
  | .missingAttribute => "MissingAttributeError"
  | .validation => "OnPropertyValidationError"
  | .type => "TypeError"
  | .value => "ValueError"
  | .fileNotFound => "FileNotFoundError"
  | .isADirectory => "IsADirectoryError"
  | .unicodeDecode => "UnicodeDecodeError"

/-- Whether the errors of a class are configuration errors. -/
def isConfig : ErrorClass → Bool
  | .config => true
  | .conflictingAttributes => true
  | .missingAttribute => true
  | _ => false

/-- Whether a class is one of the library's own. -/
def isOwn (kind : ErrorClass) : Bool :=
  kind.isConfig || kind == .validation

end ErrorClass

end Activation
