/-
# Access records

What is known of a request from its line in an access log, and the row that is written for it.  All
values are kept as they stand in the line.
-/

namespace ThreatMarker

set_option autoImplicit false

/-- One request. -/
structure Record where
  clientIp : String := ""
  timestamp : String := ""
  method : String := ""
  path : String := ""
  referer : String := ""
  userAgent : String := ""
  statusCode : String := ""
  deriving Repr, DecidableEq, Inhabited

/-- A request on one line. -/
def Record.text (r : Record) : String :=
  r.clientIp ++ " \"" ++ r.method ++ " " ++ r.path ++ "\" " ++ r.statusCode

/-- Whether a request was found to be a threat. -/
inductive Mark where
  | yes
  | no
  deriving Repr, DecidableEq, Inhabited

namespace Mark

def ofFlagged (flagged : Bool) : Mark := if flagged then .yes else .no

def text : Mark → String
  | .yes => "Yes"
  | .no => "No"

/-- The mark of a row that says nothing else. -/
def absent : Mark := .no

end Mark

/-- A marked request: one row of the output. -/
structure Row where
  clientIp : String
  reqHeaders : String
  reqBody : String := ""
  respHeaders : String := ""
  respBody : String := ""
  respStatus : String
  featureMarked : Mark
  deriving Repr, DecidableEq

namespace Row

/-- The names of the columns, in order. -/
def columns : List String :=
  ["client_ip", "req_headers", "req_body", "resp_headers", "resp_body", "resp_status",
    "feature_marked"]

/-- The values of the columns, in order. -/
def cells (r : Row) : List String :=
  [r.clientIp, r.reqHeaders, r.reqBody, r.respHeaders, r.respBody, r.respStatus,
    r.featureMarked.text]

/-- The request headers that a record knows. -/
def headerSummary (r : Record) : String :=
  "method=" ++ r.method ++ ";path=" ++ r.path ++ ";referer=" ++ r.referer ++ ";user_agent="
    ++ r.userAgent

/-- The row of a record. -/
def ofRecord (r : Record) (mark : Mark) : Row :=
  { clientIp := r.clientIp, reqHeaders := headerSummary r, respStatus := r.statusCode,
    featureMarked := mark }

def isFlagged (r : Row) : Bool := r.featureMarked == .yes

@[simp] theorem isFlagged_ofRecord (r : Record) (b : Bool) :
    (ofRecord r (Mark.ofFlagged b)).isFlagged = b := by cases b <;> rfl

end Row

end ThreatMarker
