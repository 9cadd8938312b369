import CodeChunks.Decimal.Duration
import CodeChunks.Decimal.Shortest

/-!
# Failures

Why a file could not be chunked, a grammar not read or a configuration not accepted. Every `Error`
has a kind, which is stable, and a message for people. Only breaches of a resource limit may be
tried again with a larger limit (`isRetryable`).
-/

namespace CodeChunks

/-- Why a configuration is refused. -/
inductive ConfigFault where
  | thresholdOutOfRange (got : Float)
  | zeroSetting (name : String)
  | zeroCapacity
  | badPattern (source : String)
  | unknownEncoding (name : String)
  | unreadableEnvironment
  | other (message : String)
  deriving Repr

def ConfigFault.message : ConfigFault → String
  | .thresholdOutOfRange got =>
    "importance_threshold must be within [0, 1], got " ++ Decimal.plainFloat got
  | .zeroSetting name => name ++ " must be greater than 0"
  | .zeroCapacity => "cache capacities must be greater than 0"
  | .badPattern source => "invalid pattern " ++ source
  | .unknownEncoding name => "unknown encoding: " ++ name
  | .unreadableEnvironment => "failed to load env file"
  | .other message => message

inductive Error where
  /-- The content holds a null character or is not UTF-8. -/
  | binaryFile (path : Option String)
  /-- The parser refused the content. -/
  | parse (language message : String)
  | depthExceeded (depth maxDepth : Nat)
  | timeout (elapsed limit : Duration)
  | chunkLimitExceeded (count limit : Nat)
  /-- No parser knows the language. -/
  | unsupportedLanguage (name : String)
  | grammar (message : String)
  | invalidConfig (fault : ConfigFault)
  | io (message : String)
  deriving Repr

namespace Error

def kind : Error → String
  | .binaryFile _ => "binary_file"
  | .parse _ _ => "parse"
  | .depthExceeded _ _ => "ast_depth_exceeded"
  | .timeout _ _ => "timeout"
  | .chunkLimitExceeded _ _ => "chunk_limit_exceeded"
  | .unsupportedLanguage _ => "unsupported_language"
  | .grammar _ => "grammar"
  | .invalidConfig _ => "invalid_config"
  | .io _ => "io"

def message : Error → String
  | .binaryFile none => "Binary content detected"
  | .binaryFile (some path) => "Binary content detected in " ++ path
  | .parse language message => "Failed to parse " ++ language ++ " content: " ++ message
  | .depthExceeded depth maxDepth =>
    "AST depth " ++ depth.repr ++ " exceeds maximum of " ++ maxDepth.repr
  | .timeout elapsed limit =>
    "Chunking exceeded timeout of " ++ limit.text ++ " (elapsed " ++ elapsed.text ++ ")"
  | .chunkLimitExceeded count limit =>
    "Exceeded maximum of " ++ limit.repr ++ " chunks per file (reached " ++ count.repr ++ ")"
  | .unsupportedLanguage name => "Unsupported language: " ++ name
  | .grammar message => "Grammar error: " ++ message
  | .invalidConfig fault => "Invalid configuration: " ++ fault.message
  | .io message => "IO error: " ++ message

/-- Whether a larger limit could help. -/
def isRetryable : Error → Bool
  | .timeout _ _ => true
  | .chunkLimitExceeded _ _ => true
  | _ => false

/-- The failure to read a file that does not exist. -/
def fileNotFound : Error := .io "No such file or directory (os error 2)"

end Error

end CodeChunks
