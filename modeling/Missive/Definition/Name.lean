import Missive.Text.Split
import Missive.Text.Uppercase
/-!
# Upper camel case

Names in definitions are mostly in snake case; types and labels derived from them are in upper
camel case, where common initialisms stay in capitals.

* `initialisms` -- the words kept in capitals;
* `camelWord`, `camel` -- the derived name of one word and of a whole name.
-/

namespace Missive.Name

/-- Words that are written in capitals throughout. -/
def initialisms : List String :=
  ["API", "ASCII", "CPU", "CSS", "DNS", "EOF", "GUID", "HTML", "HTTP", "HTTPS", "ID", "IP", "JSON",
   "LHS", "QPS", "RAM", "RHS", "RPC", "SLA", "SMTP", "SQL", "SSH", "TCP", "TLS", "TTL", "UDP",
   "UI", "UID", "UUID", "URI", "URL", "UTF8", "VM", "XML", "XSRF", "XSS"]

/-- A word with its first letter raised, or all of it if it is an initialism. -/
def camelWord (word : List Char) : List Char :=
  let capitals := Text.Uppercase.upper word
  if initialisms.contains (String.ofList capitals) then capitals
  else
    match word with
    | [] => []
    | first :: rest => Text.Uppercase.expand first ++ rest

/-- A name in upper camel case; the underscores between its words are dropped. -/
def camel (name : String) : String :=
  String.ofList ((Text.pieces '_' name.toList).flatMap camelWord)

end Missive.Name
