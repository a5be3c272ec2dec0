set_option autoImplicit false

/-! # Notices to the operator

What an operator should know is logged: a warning where a protection is off or has no effect, an
error where a request is refused. The notices of a request are a value, in the order in which they
arise. -/

namespace RelyingParty

/-- How serious a notice is. -/
inductive Severity where
  | warning
  | error
  deriving DecidableEq, Repr

/-- The name of a severity. -/
def Severity.name : Severity → String
  | .warning => "WARNING"
  | .error => "ERROR"

/-- A notice to the operator. -/
structure Notice where
  severity : Severity
  text : String
  deriving DecidableEq, Repr

/-- Notices in order. -/
abbrev Notices := List Notice

/-- A notice that something is not protected or has no effect. -/
def Notice.warning (text : String) : Notice := ⟨.warning, text⟩

/-- A notice that a request is refused. -/
def Notice.error (text : String) : Notice := ⟨.error, text⟩

end RelyingParty
