import Balancing.Config.File
import Balancing.Document

namespace Balancing

def SortedMap.toValue {α : Type} (item : α → Value) (m : SortedMap String α) : Value :=
  .table (m.entries.map fun (name, a) => (name, item a))

def Policy.toValue (p : Policy) : Value := p.written.toValue .boolean

def Profile.toValue (p : Profile) : Value :=
  .table [
    ("max_tries", .natural p.maxTries.toNat),
    ("max_timeout_tries", .natural p.maxTimeoutTries.toNat),
    ("max_fails", .natural p.maxFails.toNat),
    ("fail_timeout_ms", .natural p.failTimeoutMs.toNat),
    ("connect_timeout_ms", .natural p.connectTimeoutMs.toNat),
    ("request_timeout_ms", .natural p.requestTimeoutMs.toNat),
    ("slow_start_interval_sec", .natural p.slowStartSeconds.toNat),
    ("retry_policy", p.retryPolicy.toValue)]

def ServerSpec.toValue (s : ServerSpec) : Value :=
  .table [
    ("address", .text s.address),
    ("weight", .natural s.weight.toNat),
    ("rack", .optionalText s.rack),
    ("datacenter", .optionalText s.datacenter)]

def Settings.toValue (s : Settings) : Value :=
  .table [
    ("datacenter", .optionalText s.datacenter),
    ("allow_cross_dc", .boolean s.allowCrossDc),
    ("allowed_degradation_part", .number s.allowedDegradation),
    ("skip_update_without_local_dc", .boolean s.skipWithoutLocal),
    ("fail_on_ignored_update", .boolean s.failOnIgnored),
    ("timeout_multiplier", .number s.timeoutFactor),
    ("allow_external_urls", .boolean s.allowExternal)]

def ServiceEntry.toValue (s : ServiceEntry) : Value :=
  .table [
    ("enabled", .boolean s.enabled),
    ("profiles", s.profiles.toValue Profile.toValue),
    ("servers", .list (s.servers.map ServerSpec.toValue))]

def Observability.toValue (o : Observability) : Value :=
  .table [
    ("log_level", .text o.logLevel),
    ("log_json", .boolean o.logJson),
    ("metrics_enabled", .boolean o.metricsEnabled),
    ("metrics_address", .text o.metricsAddress)]

def ConfigFile.toValue (c : ConfigFile) : Value :=
  .table [
    ("balancer", c.settings.toValue),
    ("upstreams", c.services.toValue ServiceEntry.toValue),
    ("observability", c.observability.toValue)]

end Balancing
