import LanguageBroker.Protocol.Shape

/-!
The shapes of places in documents, and of what a server has found there.
-/

namespace LanguageBroker.Shape

def must (name : String) (s : Shape) : String × Need × Shape := (name, .required, s)

def may (name : String) (s : Shape) : String × Need × Shape := (name, .optional, s)

def natural : Shape := .whole false

def integer : Shape := .whole true

def numberOrText : Shape := .choice [integer, .text]

def position : Shape := .record [must "line" natural, must "character" natural]

def range : Shape := .record [must "start" position, must "end" position]

def location : Shape := .record [must "uri" .uri, must "range" range]

def diagnostic : Shape := .record
  [must "range" range, may "severity" integer, may "code" numberOrText,
    may "codeDescription" (.record [must "href" .uri]), may "source" .text,
    must "message" .text,
    may "relatedInformation"
      (.list (.record [must "location" location, must "message" .text])),
    may "tags" (.list integer), may "data" .any]

/-- What a server publishes about a document. -/
def publishedDiagnostics : Shape := .record
  [must "uri" .uri, must "diagnostics" (.list diagnostic), may "version" integer]

end LanguageBroker.Shape
