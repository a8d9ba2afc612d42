/-!
# The errors of the command line

The variants of `CliError` that the `discover` and `watch` commands construct; the
others belong to the playground.
-/

set_option autoImplicit false

namespace AnchorKit.Cli

inductive CliError where
  | rpc (message : String)
  | invalidDomain (domain : String)
  | longPollUnsupported
  | unreachable (url reason : String)
  | httpStatus (url : String) (status : UInt16)
  | malformed (url reason : String)
  deriving DecidableEq, Repr

def CliError.display : CliError → String
  | .rpc message => "RPC request failed: " ++ message
  | .invalidDomain domain => "invalid domain '" ++ domain ++ "'"
  | .longPollUnsupported => "anchor does not support long-poll"
  | .unreachable url reason => "could not reach '" ++ url ++ "': " ++ reason
  | .httpStatus url status => "'" ++ url ++ "' returned HTTP " ++ toString status
  | .malformed url reason => "'" ++ url ++ "' returned a malformed response: " ++ reason

/-- `trim_end_matches('/')`. -/
def trimEndSlashes (url : String) : String :=
  String.ofList (url.toList.reverse.dropWhile (· == '/')).reverse

def isSuccess (status : UInt16) : Bool :=
  decide (200 ≤ status ∧ status < 300)

end AnchorKit.Cli
