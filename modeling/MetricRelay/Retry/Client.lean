import MetricRelay.Retry.Policy

namespace MetricRelay

/-- `attempt` is the number at which a copy of the policy begins, and `failed` counts the attempts of all requests that
were no success. -/
structure RetryClient where
  policy : RetryPolicy
  attempt : Nat := 1
  failed : Nat := 0

namespace RetryClient

def send (c : RetryClient) (outcome : Nat → Http.Outcome) : List RetryPolicy.Step × RetryClient :=
  let steps := c.policy.stepsFrom outcome c.attempt
  (steps, { c with failed := c.failed + RetryPolicy.failures steps })

def sendAll (c : RetryClient) (requests : List (Nat → Http.Outcome)) : RetryClient :=
  requests.foldl (fun c outcome ↦ (c.send outcome).2) c

end RetryClient
end MetricRelay
