import DruidPanels.Json.Draft
import DruidPanels.Net.Address
import DruidPanels.Text.Blank

/-! # Settings

The operator's settings come from environment variables, whose names may be written
in any case. A host to listen at may be given by its name, which is looked up. -/

namespace DruidPanels

/-- A name and perhaps a password for the broker. -/
structure Credentials where
  user : String
  password : Option String
deriving DecidableEq, Repr

structure Settings where
  listenAddress : SocketAddress
  brokerUrl : String
  credentials : Option Credentials
  apiKey : Option String
  timeoutSeconds : Nat
  timeZone : Option String
  postAggregations : Option (List Json)

/-- Why settings are refused. -/
inductive SettingsError where
  | malformed
  | listenAddress
  | noListenAddress
  | listenHost
  | noListenHost
  | noBroker
deriving DecidableEq, Repr

namespace SettingsError

def message : SettingsError → String
  | .malformed => "failed to parse DRUID_BRIDGE_* environment variables"
  | .listenAddress => "invalid DRUID_BRIDGE_LISTEN_ADDR value"
  | .noListenAddress => "DRUID_BRIDGE_LISTEN_ADDR resolved to no addresses"
  | .listenHost => "invalid listen host/port combination"
  | .noListenHost => "listen address resolved to no targets"
  | .noBroker => "DRUID_BRIDGE_DRUID_URL or DRUID_URL must be set"

end SettingsError

/-- Environment variables with their values. -/
abbrev Environment := List (String × String)

namespace Settings

/-- The names of all settings. -/
def names : List String :=
  ["druid_bridge_listen_addr", "druid_bridge_listen_host", "druid_bridge_listen_port",
   "druid_bridge_druid_url", "druid_url", "druid_bridge_basic_auth_user",
   "druid_bridge_basic_auth_password", "druid_bridge_api_key",
   "druid_bridge_request_timeout_secs", "druid_bridge_period_granularity",
   "druid_bridge_raw_post_aggregators"]

/-- The lower case of a character as far as the name of a setting needs it: of ASCII
letters, and of the Kelvin sign, which alone outside ASCII has one of them for its
lower case. -/
def lowerChar (c : Char) : Char := if c = '\u212a' then 'k' else c.toLower

def lowered (env : Environment) : Environment :=
  env.map fun (name, value) => (String.ofList (name.toList.map lowerChar), value)

/-- No setting is given under two spellings of its name. -/
def unambiguous (env : Environment) : Bool :=
  names.all fun name => (env.filter (·.1 = name)).length ≤ 1

/-- A number that may be absent but not malformed. -/
def number (bound : Nat) (text : Option String) : Except SettingsError (Option Nat) :=
  match text with
  | none => .ok none
  | some text =>
    match SocketAddress.signedNatural? bound text.toList with
    | some n => .ok (some n)
    | none => .error .malformed

/-- The host to listen at unless told otherwise. -/
def defaultHost : String := "0.0.0.0"

/-- The socket number to listen at unless told otherwise. -/
def defaultSocket : Nat := 8490

/-- Seconds to wait for the broker unless told otherwise. -/
def defaultTimeout : Nat := 30

/-- The first of the addresses that a text stands for. It fails in one way if the text
stands for none at all, and in another if it stands for no address. -/
def firstAddress (invalid empty : SettingsError) (addresses : Option (List SocketAddress)) :
    Except SettingsError SocketAddress :=
  match addresses with
  | none => .error invalid
  | some [] => .error empty
  | some (address :: _) => .ok address

/-- The address to listen at: as given whole, or put together from a host and a
socket number. -/
def listenAddressOf (lookUp : HostLookup) (whole host : Option String)
    (socketNumber : Option Nat) : Except SettingsError SocketAddress :=
  match whole with
  | some text =>
    firstAddress .listenAddress .noListenAddress (SocketAddress.resolve? lookUp text)
  | none =>
    let text := host.getD defaultHost ++ ":" ++ toString (socketNumber.getD defaultSocket)
    firstAddress .listenHost .noListenHost (SocketAddress.resolve? lookUp text)

/-- A URL without the slashes at its end. -/
def withoutSlashes (url : String) : String :=
  String.ofList (url.toList.reverse.dropWhile (· = '/')).reverse

/-- Post-aggregations written as JSON: an array, or a lone object. Anything else counts
as absent. -/
def postAggregationsOf (text : String) : Option (List Json) :=
  match Json.parse? text with
  | some (.arr items) => some items
  | some (.obj fields) => some [.obj fields]
  | _ => none

def ofEnvironment (environment : Environment) (lookUp : HostLookup := .nameless) :
    Except SettingsError Settings := do
  let env := lowered environment
  if !unambiguous env then throw .malformed
  let socketNumber ← number SocketAddress.numberBound (env.lookup "druid_bridge_listen_port")
  let timeout ← number Word.size (env.lookup "druid_bridge_request_timeout_secs")
  let listenAddress ← listenAddressOf lookUp (env.lookup "druid_bridge_listen_addr")
    (env.lookup "druid_bridge_listen_host") socketNumber
  let url := (env.lookup "druid_bridge_druid_url").or (env.lookup "druid_url")
  let some url := url.bind Text.trimmed? | throw .noBroker
  let user := (env.lookup "druid_bridge_basic_auth_user").bind Text.trimmed?
  return {
    listenAddress
    brokerUrl := withoutSlashes url
    credentials := user.map (⟨·, env.lookup "druid_bridge_basic_auth_password"⟩)
    apiKey := (env.lookup "druid_bridge_api_key").bind Text.trimmed?
    timeoutSeconds := max 1 (timeout.getD defaultTimeout)
    timeZone := (env.lookup "druid_bridge_period_granularity").bind Text.trimmed?
    postAggregations := (env.lookup "druid_bridge_raw_post_aggregators").bind postAggregationsOf }

end Settings

end DruidPanels
