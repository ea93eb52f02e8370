import LanguageBroker.Scope

/-!
What can go wrong between a request for a language server and its answer, and the one sentence
that says so.
-/

namespace LanguageBroker

/-- A failure of one running server. -/
inductive BackendError
  | spawn (program reason : String)
  | io (reason : String)
  | json (reason : String)
  | frame (reason : String)
  | rejected (method reason : String)
  | connectionClosed
  | notStarted
  | start (reason : String)
  deriving DecidableEq, Repr

/-- A failure to work out the options of a server. -/
inductive OptionsError
  | notInitialized
  | environment (reason : String)
  deriving DecidableEq, Repr

/-- A failure to bring a managed server up. -/
inductive ManagerError
  | alreadyStarted
  | disposed
  | options (cause : OptionsError)
  | backend (cause : BackendError)
  deriving DecidableEq, Repr

/-- A server's program is not available. -/
inductive InstallError
  | notInstalled (name : String)
  | failed (variant : Variant) (reason : String)
  deriving DecidableEq, Repr

/-- A failure to find or start a server for a scope. -/
inductive ActivationError
  | noInterpreter (resource : String)
  | interpreter (reason : String)
  | noBackend (variant : Variant)
  | install (cause : InstallError)
  | start (variant : Variant) (cause : ManagerError)
  | aborted (reason : String)
  deriving DecidableEq, Repr

def BackendError.message : BackendError → String
  | .spawn program reason => "Failed to spawn " ++ program ++ ": " ++ reason
  | .io reason => "I/O error: " ++ reason
  | .json reason => "Invalid message: " ++ reason
  | .frame reason => "Malformed frame: " ++ reason
  | .rejected method reason => "Server rejected " ++ method ++ ": " ++ reason
  | .connectionClosed => "Connection to server closed"
  | .notStarted => "Backend is not started"
  | .start reason => "Backend start failed: " ++ reason

def OptionsError.message : OptionsError → String
  | .notInitialized => "Analysis options requested before initialize()"
  | .environment reason => "Failed to read environment variables: " ++ reason

def ManagerError.message : ManagerError → String
  | .alreadyStarted => "Manager already started"
  | .disposed => "Manager has been disposed"
  | .options cause => cause.message
  | .backend cause => cause.message

def InstallError.message : InstallError → String
  | .notInstalled name => name ++ " is not installed"
  | .failed variant reason => "Failed to install " ++ variant.name ++ ": " ++ reason

def ActivationError.message : ActivationError → String
  | .noInterpreter resource => "No active interpreter for " ++ resource
  | .interpreter reason => "Failed to resolve interpreter: " ++ reason
  | .noBackend variant => "No " ++ variant.name ++ " backend is registered"
  | .install cause => cause.message
  | .start variant cause => "Failed to start " ++ variant.name ++ " backend: " ++ cause.message
  | .aborted reason => "Activation task aborted: " ++ reason

end LanguageBroker
