import ThreatMarker.Rule.Basic
/-
# The rules that are always known

Three rules: a scanner that probes for sensitive paths, and two kinds of payload in the path.
-/

namespace ThreatMarker.Rule

set_option autoImplicit false

/-- Automated probing for sensitive paths.  One network probes on purpose and is left out. -/
def scanningAttempt : Rule :=
  { name := "Scanning_Attempt"
    description := "HEAD probes for sensitive paths from an async HTTP client"
    priority := 1
    conditions := [
      ⟨.statusCode, .oneOf, .many ["404"]⟩,
      ⟨.path, .regex, .one "\\b(php|backup|secret|password)\\b"⟩,
      ⟨.method, .equals, .one "HEAD"⟩,
      ⟨.userAgent, .contains, .one "Custom-AsyncHttpClient"⟩]
    excludeNetworks := ["14.19.0.0/16"] }

/-- A database query inside the path. -/
def sqlInjection : Rule :=
  { name := "SQL_Injection"
    description := "SQL injection payload in request path"
    priority := 2
    conditions :=
      [⟨.path, .regex, .one "(\\bUNION\\s+SELECT\\b|\\bDROP\\s+TABLE\\b|'\\s*OR\\s*1=1)"⟩] }

/-- A script inside the path. -/
def xssAttack : Rule :=
  { name := "XSS_Attack"
    description := "cross-site scripting payload in request path"
    priority := 3
    conditions := [⟨.path, .regex, .one "(<script\\b|onerror\\s*=|javascript:)"⟩] }

/-- The rules in the order of their priority. -/
def builtin : List Rule := [scanningAttempt, sqlInjection, xssAttack]

end ThreatMarker.Rule
