import BusLink.Fault.Basic
import BusLink.Number.Shortest
import BusLink.Options.Basic
import BusLink.Text.Bytes
import BusLink.Text.Cut

set_option autoImplicit false

namespace BusLink

/-- The settings of one handler. A configuration made by `ofOptions` has finite waits that are not
negative. -/
structure Configuration where
  hostname : String
  transport : Transport
  retries : UInt32
  retryMode : Retry.Mode
  waitUnit : Binary64
  longestWait : Binary64
  encoding : String
  userAgent : Option String
  customEndpoint : Option String
deriving DecidableEq, Repr

namespace Configuration

/-- Refuses a number of seconds that is negative or not finite. -/
def checkSeconds (name : String) (value : Binary64) : Except Fault Unit :=
  if !value.isFinite || value.isBelowZero then
    .error (.configuration
      (name ++ " must be a non-negative number of seconds, got " ++ value.text))
  else .ok ()

def ofOptions (hostname : String) (options : Options) : Except Fault Configuration := do
  checkSeconds "retry_backoff_factor" options.waitUnit
  checkSeconds "retry_backoff_max" options.longestWait
  let encoding := Text.trim options.encoding
  if encoding.isEmpty then
    .error (.configuration "encoding must not be empty")
  else
    .ok { hostname, encoding
          transport := options.transport
          retries := options.retries
          retryMode := options.retryMode
          waitUnit := options.waitUnit
          longestWait := options.longestWait
          userAgent := options.userAgent
          customEndpoint := options.customEndpoint }

def retryPolicy (configuration : Configuration) : Retry.Policy :=
  ⟨configuration.retries, configuration.retryMode, configuration.waitUnit,
    configuration.longestWait⟩

/-- The bytes of an address. Only UTF-8 is known, under two names in any case of their letters. -/
def encode (configuration : Configuration) (address : String) : Except Fault (List UInt8) :=
  let name := Text.lower configuration.encoding
  if name = "utf-8" ∨ name = "utf8" then .ok (Text.bytes address)
  else .error (.configuration ("unsupported encoding '" ++ name ++ "'"))

end Configuration

structure Properties where
  product : String
  version : String
  framework : String
  platform : String
  userAgent : String
deriving DecidableEq, Repr

namespace Properties

def clientName : String := "azsdk-rust-servicebus"

def clientVersion : String := "0.1.0-alpha.1"

/-- The properties on a platform; a user agent that is not blank comes before the generated one. -/
def make (platform : String) (userAgent : Option String) : Properties :=
  let generated := clientName ++ "/" ++ clientVersion ++ " (" ++ platform ++ ")"
  let given := Text.trim (userAgent.getD "")
  { product := clientName
    version := clientVersion
    framework := "Rust"
    platform
    userAgent := if given.isEmpty then generated else given ++ " " ++ generated }

end Properties
end BusLink
