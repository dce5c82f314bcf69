import TxGateway.Gateway
import TxGateway.Text.Quoted
import TxGateway.Toml.Reader

/-!
# Settings

What an operator can set, read from a configuration document in which `${NAME}` stands for a
variable of the environment.
-/

namespace TxGateway

/-- How the price of gas is learnt. -/
inductive PriceStrategy
  /-- One price for everything. -/
  | legacy
  /-- A ceiling and a tip. -/
  | dynamic
  deriving DecidableEq, Repr

/-- How the database is reached. -/
structure DatabaseSettings where
  /-- Where it is. -/
  url : String
  /-- The most connections. -/
  maxConnections : Nat
  /-- The fewest connections. -/
  minConnections : Nat
  deriving DecidableEq, Repr

/-- How the chain is reached. -/
structure ChainSettings where
  /-- The number of the chain. -/
  chainId : Nat
  /-- Its name. -/
  name : String
  /-- Where its nodes are. -/
  rpcUrls : List String
  /-- How the price of gas is learnt. -/
  strategy : PriceStrategy
  /-- The greatest price of gas, in billionths of the unit of account. -/
  maxGasPriceGwei : Nat
  /-- Percentage added to a reported price. -/
  bufferPercent : Nat
  deriving DecidableEq, Repr

/-- Everything that can be set. -/
structure Settings where
  /-- How the gateway behaves. -/
  gateway : Policy
  /-- The database; without one, nothing outlives the process. -/
  database : Option DatabaseSettings
  /-- Where requests are taken. -/
  apiHost : String
  /-- The port for requests. -/
  apiPort : Nat
  /-- Whether metrics are exposed. -/
  metricsEnabled : Bool
  /-- The port for metrics. -/
  metricsPort : Nat
  /-- Whether the log is structured data. -/
  structuredLog : Bool
  /-- The chain. -/
  chain : ChainSettings
  /-- The variable that holds the private keys. -/
  keysVariable : String
  deriving Repr

namespace Settings

/-! ## Variables -/

/-- Characters that a variable can begin with. -/
def isNameStart (c : Char) : Bool := ('A' ≤ c && c ≤ 'Z') || c == '_'

/-- Characters of a variable. -/
def isNameChar (c : Char) : Bool := isNameStart c || c.isDigit

/-- The variable at the head of a text, behind `${`, and the text behind its closing brace. -/
def slot? (cs : List Char) : Option (List Char × List Char) :=
  match cs.takeWhile isNameChar, cs.dropWhile isNameChar with
  | c :: name, '\x7d' :: rest => if isNameStart c then some (c :: name, rest) else none
  | _, _ => none

theorem slot?_length {cs name rest : List Char} (h : slot? cs = some (name, rest)) :
    rest.length < cs.length := by
  have hspan : cs.takeWhile isNameChar ++ cs.dropWhile isNameChar = cs :=
    List.takeWhile_append_dropWhile
  unfold slot? at h
  split at h
  · rename_i hd
    split at h
    · simp only [Option.some.injEq, Prod.mk.injEq] at h
      have hlen := congrArg List.length hspan
      rw [hd] at hlen
      simp only [List.length_append, List.length_cons] at hlen
      rw [← h.2]
      omega
    · cases h
  · cases h

/-- Replaces each `${NAME}` by the value of the variable, or by nothing if it has none. What has
been put in is not looked at again. -/
def substitute (environment : String → Option String) : List Char → List Char
  | [] => []
  | '$' :: '\x7b' :: rest =>
    match h : slot? rest with
    | some (name, after) =>
      have := slot?_length h
      ((environment (String.ofList name)).getD "").toList ++ substitute environment after
    | none => '$' :: substitute environment ('\x7b' :: rest)
  | c :: rest => c :: substitute environment rest
termination_by cs => cs.length

/-! ## Sections -/

/-- The values of a section by their names. A section may also be an array of its values in a fixed
order. A date counts as a section without known names. -/
def lookup? (names : List String) (name : String) : Toml → Option (Option Toml)
  | .table _ members => some (Entries.get? name members)
  | .array items => some (Entries.get? name (names.zip items))
  | .tables last earlier =>
    some (Entries.get? name (names.zip ((last :: earlier).reverse.map (.table .named))))
  | .moment => some none
  | _ => none

/-- A natural number below a bound. -/
def natural? (bound : Nat) : Toml → Option Nat
  | .integer n => if 0 ≤ n ∧ n.toNat < bound then some n.toNat else none
  | _ => none

/-- A text. -/
def text? : Toml → Option String
  | .string s => some s
  | _ => none

/-- A truth value. -/
def flag? : Toml → Option Bool
  | .bool b => some b
  | _ => none

/-- A list of texts. -/
def texts? : Toml → Option (List String)
  | .array items => items.mapM text?
  | _ => none

/-- The strategy with a name. -/
def strategyNamed? (s : String) : Option PriceStrategy :=
  if s = "legacy" then some .legacy
  else if s = "eip1559" then some .dynamic
  else none

/-- Whether a value holds nothing. -/
def isHollow : Toml → Bool
  | .table _ [] | .array [] => true
  | _ => false

/-- A strategy: its name, or a table with the name over something empty. -/
def strategy? : Toml → Option PriceStrategy
  | .string s => strategyNamed? s
  | .table _ [(name, v)] => if isHollow v then strategyNamed? name else none
  | _ => none

/-- A value that has to be there. -/
def required {α : Type} (section? : Toml) (names : List String) (name : String)
    (f : Toml → Option α) : Option α :=
  match lookup? names name section? with
  | some (some v) => f v
  | _ => none

/-- A value that may be missing. -/
def defaulted {α : Type} (section? : Toml) (names : List String) (name : String)
    (f : Toml → Option α) (a : α) : Option α :=
  match lookup? names name section? with
  | some (some v) => f v
  | some none => some a
  | none => none

/-- Counters have 64 bits. -/
def counter? : Toml → Option Nat := natural? (Nat.pow 2 64)

/-- The names in the section on the gateway. -/
def gatewayNames : List String :=
  ["instance_id", "nonce_stale_after_secs", "poll_timeout_ms", "broadcast_timeout_ms",
    "refresh_interval_ms", "drop_after_secs", "retention_secs", "out_of_gas_threshold_percent"]

/-- Reads the section on the gateway; every value may be missing. -/
def gateway? (bufferPercent : Nat) (v : Toml) : Option Policy := do
  let d : Policy := {}
  let seconds (name : String) (t : Duration) : Option Duration :=
    defaulted v gatewayNames name (fun v => (counter? v).map .ofSeconds) t
  let millis (name : String) (t : Duration) : Option Duration :=
    defaulted v gatewayNames name (fun v => (counter? v).map .ofMillis) t
  let instanceId ← defaulted v gatewayNames "instance_id" text? d.instanceId
  let staleAfter ← seconds "nonce_stale_after_secs" d.staleAfter
  let pollTimeout ← millis "poll_timeout_ms" d.pollTimeout
  let broadcastTimeout ← millis "broadcast_timeout_ms" d.broadcastTimeout
  let refreshInterval ← millis "refresh_interval_ms" d.refreshInterval
  let dropAfter ← seconds "drop_after_secs" d.dropAfter
  let retention ← seconds "retention_secs" d.retention
  let outOfGasPercent ←
    defaulted v gatewayNames "out_of_gas_threshold_percent" counter? d.gas.outOfGasPercent
  pure { instanceId, staleAfter, pollTimeout, broadcastTimeout, refreshInterval, dropAfter,
         retention, gas := { bufferPercent, outOfGasPercent } }

/-- Reads the section on the database. -/
def database? (v : Toml) : Option DatabaseSettings := do
  let names := ["url", "max_connections", "min_connections"]
  let url ← required v names "url" text?
  let maxConnections ← required v names "max_connections" (natural? (Nat.pow 2 32))
  let minConnections ← required v names "min_connections" (natural? (Nat.pow 2 32))
  pure { url, maxConnections, minConnections }

/-- Reads the section on the chain. -/
def chain? (v : Toml) : Option ChainSettings := do
  let names := ["chain_id", "name", "rpc_urls", "gas_price_strategy", "max_gas_price_gwei",
    "gas_price_buffer_percent"]
  let chainId ← required v names "chain_id" counter?
  let name ← required v names "name" text?
  let rpcUrls ← required v names "rpc_urls" texts?
  let strategy ← required v names "gas_price_strategy" strategy?
  let maxGasPriceGwei ← required v names "max_gas_price_gwei" counter?
  let bufferPercent ← defaulted v names "gas_price_buffer_percent" counter? 10
  pure { chainId, name, rpcUrls, strategy, maxGasPriceGwei, bufferPercent }

/-- Reads all sections. -/
def ofMembers? (ms : Toml.Members) : Option Settings := do
  let find (name : String) : Option Toml := Entries.get? name ms
  let database ← match find "database" with
    | none => some none
    | some v => (database? v).map some
  let api ← find "api"
  let apiHost ← required api ["host", "port"] "host" text?
  let apiPort ← required api ["host", "port"] "port" (natural? (Nat.pow 2 16))
  let metrics ← find "metrics"
  let metricsEnabled ← required metrics ["enabled", "port"] "enabled" flag?
  let metricsPort ← required metrics ["enabled", "port"] "port" (natural? (Nat.pow 2 16))
  let logging := (find "logging").getD (.table .written [])
  let structuredLog ← defaulted logging ["json"] "json" flag? false
  let chain ← (find "chain").bind chain?
  let wallet ← find "wallet"
  let keysVariable ← required wallet ["private_key_env"] "private_key_env" text?
  let gateway ← gateway? chain.bufferPercent ((find "gateway").getD (.table .written []))
  pure { gateway, database, apiHost, apiPort, metricsEnabled, metricsPort, structuredLog, chain,
         keysVariable }

/-! ## Validity -/

/-- Why settings cannot be used. -/
inductive Fault
  /-- The file cannot be read. -/
  | unreadable (path : String)
  /-- The document does not denote settings. -/
  | malformed
  /-- The chain has no nodes. -/
  | noNodes (chain : String)
  /-- The share of gas is no percentage. -/
  | badThreshold (percent : Nat)
  /-- A call would not wait at all. -/
  | noTimeout
  /-- The variable with the keys has no name. -/
  | noKeysVariable
  deriving DecidableEq, Repr

/-- The wording of a fault. -/
def Fault.message : Fault → String
  | unreadable path => "Failed to read config file: " ++ Text.quote path
  | malformed => "Failed to parse configuration"
  | noNodes chain => "Chain " ++ chain ++ " has no RPC URLs configured"
  | badThreshold percent =>
    "out_of_gas_threshold_percent must be within 1..=100, got " ++ toString percent
  | noTimeout => "Chain call timeouts must be non-zero"
  | noKeysVariable => "wallet.private_key_env must name an environment variable"

/-- Settings that can be used; the first fault is told. -/
def validate (s : Settings) : Except Fault Settings :=
  let percent := s.gateway.gas.outOfGasPercent
  if s.chain.rpcUrls.isEmpty then .error (.noNodes s.chain.name)
  else if percent = 0 ∨ 100 < percent then .error (.badThreshold percent)
  else if s.gateway.pollTimeout.nanos = 0 ∨ s.gateway.broadcastTimeout.nanos = 0 then
    .error .noTimeout
  else if s.keysVariable.isEmpty then .error .noKeysVariable
  else .ok s

/-- The settings that a document denotes. -/
def ofText (environment : String → Option String) (document : String) : Except Fault Settings :=
  let cs := substitute environment document.toList
  match (Toml.ofText? (String.ofList cs)).bind ofMembers? with
  | none => .error .malformed
  | some s => s.validate

/-- The settings in a file; none if it cannot be read. -/
def load (environment : String → Option String) (path : String) (document : Option String) :
    Except Fault Settings :=
  match document with
  | none => .error (.unreadable path)
  | some document => ofText environment document

end Settings

end TxGateway
