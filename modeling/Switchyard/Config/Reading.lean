import Switchyard.Config.Settings
import Switchyard.Toml.Value

/-!
# Reading settings

Settings are read from the values of a document.  A section gives its fields by name or, as an
array, by position; a field that is left out has its default, and what has no name here is passed
over.  A field of the wrong type, or a number that does not fit, makes the whole unreadable.
-/

namespace Switchyard.Config

open Toml (Value Entries)

/-- The fields of a section. -/
inductive Section
  | named (entries : Entries)
  | listed (items : List Value)

/-- The fields that a value gives.  A point of time gives none. -/
def Section.of : Value → Option Section
  | .table _ entries => some (.named entries)
  | .array items => some (.listed items)
  | .tables items => some (.listed (items.map (.table .header)))
  | .moment _ => some (.named [])
  | _ => none

/-- The value of a field, by its name or its position. -/
def Section.field (s : Section) (index : Nat) (name : String) : Option Value :=
  match s with
  | .named entries => Toml.lookup name entries
  | .listed items => items[index]?

/-- Reads a field that has to be there. -/
def Section.require {α : Type} (s : Section) (index : Nat) (name : String)
    (read : Value → Option α) : Option α :=
  (s.field index name).bind read

/-- Reads a field that has a default. -/
def Section.get {α : Type} (s : Section) (index : Nat) (name : String) (default : α)
    (read : Value → Option α) : Option α :=
  match s.field index name with
  | none => some default
  | some v => read v

def text : Value → Option String
  | .text s => some s
  | _ => none

def flag : Value → Option Bool
  | .boolean b => some b
  | _ => none

/-- A whole number from zero up to a bound. -/
def below (bound : Nat) : Value → Option Nat
  | .integer n => if 0 ≤ n ∧ n < bound then some n.toNat else none
  | _ => none

def word (v : Value) : Option UInt64 := (below UInt64.size v).map UInt64.ofNat

def halfWord (v : Value) : Option UInt32 := (below UInt32.size v).map UInt32.ofNat

def quarterWord (v : Value) : Option UInt16 := (below UInt16.size v).map UInt16.ofNat

def list {α : Type} (item : Value → Option α) : Value → Option (List α)
  | .array items => items.mapM item
  | .tables items => (items.map (.table .header)).mapM item
  | _ => none

/-- An instance; no field of it has a default. -/
def readInstance (v : Value) : Option Instance := do
  let s ← Section.of v
  return {
    host := ← s.require 0 "host" text
    portNumber := ← s.require 1 "port" quarterWord
    contextId := ← s.require 2 "contextId" text }

def readRetry (v : Value) : Option RetrySettings := do
  let s ← Section.of v
  let d : RetrySettings := {}
  return {
    enabled := ← s.get 0 "retry.enable" d.enabled flag
    period := ← s.get 1 "retry.period" d.period word
    maxPeriod := ← s.get 2 "retry.maxPeriod" d.maxPeriod word
    maxAttempts := ← s.get 3 "retry.maxAttempts" d.maxAttempts halfWord
    jitter := ← s.get 4 "retry.jitter" d.jitter flag }

def readRegister (v : Value) : Option RegisterSettings := do
  let s ← Section.of v
  let d : RegisterSettings := {}
  return {
    kind := ← s.get 0 "registerType" d.kind text
    servers := ← s.get 1 "serverLists" d.servers text
    retry := ← s.get 2 "props" d.retry readRetry
    instances := ← s.get 3 "instances" d.instances (list readInstance) }

def readBalance (v : Value) : Option BalanceSettings := do
  let s ← Section.of v
  let d : BalanceSettings := {}
  return { strategy := ← s.get 0 "strategy" d.strategy text }

def readTransport (v : Value) : Option TransportSettings := do
  let s ← Section.of v
  let d : TransportSettings := {}
  return {
    requestTimeout := ← s.get 0 "request_timeout_ms" d.requestTimeout word
    maxBody := ← s.get 1 "max_body_bytes" d.maxBody word }

def readGateway (v : Value) : Option GatewaySettings := do
  let s ← Section.of v
  let d : GatewaySettings := {}
  return {
    bindAddress := ← s.get 0 "bind_address" d.bindAddress text
    defaultContextId := ← s.get 1 "default_context_id" d.defaultContextId fun v => (text v).map some
    queueCapacity := ← s.get 2 "queue_capacity" d.queueCapacity word
    workers := ← s.get 3 "workers" d.workers word
    requestTimeoutSeconds := ← s.get 4 "request_timeout_secs" d.requestTimeoutSeconds word
    maxBody := ← s.get 5 "max_body_bytes" d.maxBody word }

def readObservability (v : Value) : Option ObservabilitySettings := do
  let s ← Section.of v
  let d : ObservabilitySettings := {}
  return {
    logLevel := ← s.get 0 "log_level" d.logLevel text
    metricsEnabled := ← s.get 1 "metrics_enabled" d.metricsEnabled flag
    metricsAddress := ← s.get 2 "metrics_address" d.metricsAddress text }

/-- The settings that a value gives. -/
def read (v : Value) : Option Settings := do
  let s ← Section.of v
  let d : Settings := {}
  return {
    register := ← s.get 0 "register" d.register readRegister
    balance := ← s.get 1 "load_balance" d.balance readBalance
    transport := ← s.get 2 "transport" d.transport readTransport
    gateway := ← s.get 3 "gateway" d.gateway readGateway
    observability := ← s.get 4 "observability" d.observability readObservability }

end Switchyard.Config
