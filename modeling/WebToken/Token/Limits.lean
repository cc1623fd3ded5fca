/-!
# Size limits

What is longer is refused before any JSON is read or any signature checked.
-/

set_option autoImplicit false

namespace WebToken.Limits

/-- The longest token, in octets of its text. -/
def token : Nat := 65536

/-- The longest header, in octets of its JSON text. -/
def header : Nat := 8192

/-- The longest payload, in octets of its JSON text. -/
def payload : Nat := 49152

/-- The longest signature, in octets. -/
def signature : Nat := 1024

end WebToken.Limits
