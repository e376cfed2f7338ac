import MetricRelay.Http.Exchange
import MetricRelay.Tls.ServerName

namespace MetricRelay.Http

/-- What the network makes of a request: how many nanoseconds the answer takes, if one ever comes, and what it is. -/
structure Reply where
  after : Option Nat := some 0
  outcome : Outcome

def connectFailure (cause : Failure) : Failure := .client "client error (Connect)" (some cause)

def unreachable : Failure :=
  connectFailure (.plain "tcp connect error" (some (.plain "Network is unreachable (os error 101)" none)))

structure Client where
  timeout : Nat
  serverName : Option Tls.ServerName := none

namespace Client

def bareHost (host : List Char) : String :=
  String.ofList (match host with
    | '[' :: rest => rest.takeWhile (· ≠ ']')
    | host => host)

/-- Why an address cannot be asked: it lacks a scheme or an authority, its scheme is an unknown one, or its host cannot
be the name in a certificate, unless another name is expected there. -/
def refusal? (c : Client) (uri : Uri) : Option Failure :=
  match uri.scheme, uri.authority with
  | some scheme, some authority =>
    if scheme = "http".toList then none
    else if scheme = "https".toList then
      if c.serverName.isSome || (Tls.ServerName.ofText? (bareHost authority.host)).isSome then none
      else some (connectFailure (.plain "invalid dns name" none))
    else some (connectFailure (.io (.plain s!"unsupported scheme {String.ofList scheme}" none)))
  | _, _ => some (.client "client error (UserAbsoluteUriRequired)" none)

/-- A reply as the client sees it: a refused request fails at once, and one that is not answered in time has timed
out. -/
def reply (c : Client) (uri : Uri) (r : Reply) : Nat × Outcome :=
  match c.refusal? uri, r.after with
  | some failure, _ => (0, .error failure)
  | none, some delay => if delay ≤ c.timeout then (delay, r.outcome) else (c.timeout, .error .timeout)
  | none, none => (c.timeout, .error .timeout)

end Client
end MetricRelay.Http
