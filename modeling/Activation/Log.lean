/-!
# Log lines

What the library tells about its work while it works. A line belongs to one of three topics and
carries a message.
-/

namespace Activation.Log

/-- What a line is about. -/
inductive Topic where
  | evaluation
  | loading
  | attachment
deriving DecidableEq

/-- A log line. -/
structure Line where
  topic : Topic
  message : String
deriving DecidableEq

end Activation.Log
