import MetricRelay.Decimal.Reading
import MetricRelay.Filter.Basic
import MetricRelay.Text.Blank

namespace MetricRelay

abbrev RuleTable := List (FilterAction × String)

def commonRules : RuleTable := [
  (.deny, "^kube_.+_(labels|annotations)$"),
  (.deny, "^kube_.+_created$"),
  (.deny, "^kube_.+_metadata_generation$"),
  (.allow, "^kube_node_(info|spec_unschedulable|status_condition|status_capacity|status_allocatable)$"),
  (.allow, "^kube_pod_(info|status_phase|status_ready|status_scheduled|status_reason)$"),
  (.allow, "^kube_pod_container_status_(ready|restarts_total|running|terminated|terminated_reason|waiting|" ++
    "waiting_reason)$"),
  (.allow, "^kube_deployment_(spec_replicas|status_replicas|status_replicas_available|" ++
    "status_replicas_unavailable|status_replicas_updated)$"),
  (.allow, "^kube_daemonset_status_(current_number_scheduled|desired_number_scheduled|number_available|" ++
    "number_misscheduled|number_ready|number_unavailable)$"),
  (.allow, "^kube_statefulset_(replicas|status_replicas|status_replicas_current|status_replicas_ready|" ++
    "status_replicas_updated)$"),
  (.allow, "^kube_replicaset_(spec_replicas|status_ready_replicas|status_replicas)$"),
  (.allow, "^kube_job_(status_active|status_failed|status_succeeded|complete|failed)$"),
  (.allow, "^kube_cronjob_(status_active|next_schedule_time|spec_suspend)$"),
  (.allow, "^kube_namespace_status_phase$"),
  (.allow, "^kube_persistentvolume_status_phase$"),
  (.allow, "^kube_persistentvolumeclaim_(status_phase|resource_requests_storage_bytes)$"),
  (.allow, "^kube_resourcequota$"),
  (.allow, "^(node|container|pod)_(cpu|memory)_(usage_seconds_total|working_set_bytes)$"),
  (.allow, "^kubelet_(running_pods|running_containers|volume_stats_(available|capacity|used)_bytes)$"),
  (.allow, "^apiserver_request_total$"),
  (.allow, "^apiserver_request_duration_seconds$"),
  (.allow, "^etcd_object_counts$"),
  (.allow, "^coredns_(dns_requests_total|dns_responses_total|forward_requests_total|cache_hits_total|" ++
    "cache_misses_total)$"),
  (.allow, "^coredns_dns_request_duration_seconds$")]

def legacyRules : RuleTable := [
  (.allow, "^kube_hpa_(spec_max_replicas|spec_min_replicas|status_current_replicas|status_desired_replicas)$"),
  (.allow, "^kube_pod_container_resource_(requests|limits)_(cpu_cores|memory_bytes)$")]

def currentRules : RuleTable := [
  (.allow, "^kube_horizontalpodautoscaler_(spec_max_replicas|spec_min_replicas|status_current_replicas|" ++
    "status_desired_replicas)$"),
  (.allow, "^kube_pod_container_resource_(requests|limits)$")]

def denyRest : RuleTable := [(.deny, "^.+$")]

def firstCurrentMinor : Nat := 20

/-- Major and minor version, with an optional `v` in front; plus signs behind the minor version do not count. -/
def clusterVersion? (text : String) : Option (Nat × Nat) :=
  let text := Text.trim text.toList
  let text := (Text.dropStart? ['v'] text).getD text
  match Text.split '.' text with
  | major :: minor :: _ => do
    let minor := (minor.reverse.dropWhile (· = '+')).reverse
    return (← Decimal.unsigned? UInt32.size major, ← Decimal.unsigned? UInt32.size minor)
  | _ => none

/-- The table for a version; one that cannot be read counts as current. -/
def tableForVersion (text : String) : RuleTable :=
  let specific := match clusterVersion? text with
    | some (1, minor) => if minor < firstCurrentMinor then legacyRules else currentRules
    | _ => currentRules
  commonRules ++ specific ++ denyRest

def MetricFilter.forVersion (text : String) : MetricFilter :=
  ⟨(tableForVersion text).filterMap fun (action, pattern) ↦ FilterRule.ofPattern? action pattern⟩

end MetricRelay
