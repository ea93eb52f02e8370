import LanguageBroker.DocumentFilter
import LanguageBroker.Protocol.Places

/-!
What servers find in documents and publish without being asked. Findings about scratch files are
nobody's business but the server's.
-/

namespace LanguageBroker.Findings

/-- Findings that are passed on: they can be read, and are not about a scratch file. -/
def read? (found : Json) : Option Json :=
  (Shape.publishedDiagnostics.read found).filter fun params =>
    !(((params.get? "uri").bind Json.text?).bind Uri.parse?).any Uri.isHidden

end LanguageBroker.Findings
