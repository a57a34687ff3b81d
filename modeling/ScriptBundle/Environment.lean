/-!
# The environment

The variables that a program is started with.
-/

namespace ScriptBundle

abbrev Environment := List (String × String)

namespace Environment

/-- Whether a variable has a value that is not empty. -/
def isSet (env : Environment) (name : String) : Bool := (env.lookup name).any (· ≠ "")

end Environment
end ScriptBundle
