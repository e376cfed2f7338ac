import MetricRelay.Proofs.Submission.Account
import MetricRelay.Proofs.Submission.Rounds
import MetricRelay.Proofs.Text.Bytes
import MetricRelay.Submission.Submitter

namespace MetricRelay.Submitter

open Http Submission

variable {s : Submitter} {around : Surroundings} {limit : Nat} {batch : Batch} {state : SubmitterState}
  {r : SubmissionResult}

def Delivered (s : Submitter) (batch : Batch) (r : SubmissionResult) : Prop :=
  batch.isEmpty = false ∧ s.endpoint.isSome ∧ r.result = .ok ()

/-- A client is there already or can be built. -/
def HasClient (s : Submitter) (around : Surroundings) (state : SubmitterState) : Prop :=
  state.hasClient = true ∨ ∃ built,
    Tls.ClientTls.build { caFile := s.caFile.map fun path ↦ (path, around.fileText path) } around.tls = .ok built

def Sends (s : Submitter) (around : Surroundings) (batch : Batch) (state : SubmitterState) (endpoint : Uri) : Prop :=
  batch.isEmpty = false ∧ s.endpoint = some endpoint ∧ s.HasClient around state

def body (s : Submitter) (batch : Batch) : Compression.Payload :=
  .encode s.scheme s.threshold batch.payload.toUTF8.toList

/-- A payload is compressed from a size on, and the headers tell its length and encoding. -/
structure Carries (s : Submitter) (endpoint : Uri) (batch : Batch) (q : Request) : Prop where
  method : q.method = "PUT"
  uri : q.uri = endpoint
  body : q.body =
    if s.scheme = .gzip ∧ s.threshold < batch.payload.utf8ByteSize then
      Compression.Gzip.encode batch.payload.toUTF8.toList
    else batch.payload.toUTF8.toList
  headers : q.headers = [("content-type", "application/json"), ("user-agent", "kube-harvester/0.1.0"),
      ("content-length", toString q.body.length)] ++
    if s.scheme = .gzip ∧ s.threshold < batch.payload.utf8ByteSize then [("content-encoding", "gzip")] else []

theorem carries_request (s : Submitter) (endpoint : Uri) (batch : Batch) :
    s.Carries endpoint batch (request endpoint (s.body batch)) := by
  refine ⟨rfl, rfl, ?_, ?_⟩ <;> simp only [request, Submitter.body, Compression.Payload.encode, length_toList]
  · by_cases hlong : s.threshold < batch.payload.utf8ByteSize <;> cases s.scheme <;>
      simp [hlong, Compression.Scheme.encode]
  · by_cases hlong : s.threshold < batch.payload.utf8ByteSize <;> cases s.scheme <;>
      simp [hlong, Compression.Payload.contentEncoding, Compression.Scheme.contentEncoding, userAgent]

theorem trace_fst (s : Submitter) (around : Surroundings) (state : SubmitterState) (payload : String) :
    ∃ n, (s.trace around state payload).1 = { state with traced := n } := by
  unfold trace
  cases s.traceDirectory with
  | none => exact ⟨state.traced, rfl⟩
  | some directory =>
    refine ⟨state.traced + 1, ?_⟩
    dsimp only
    split <;> rfl

theorem prepare_cases (s : Submitter) (around : Surroundings) (state : SubmitterState) :
    (∃ e, s.prepare around state = .error e ∧ ¬s.HasClient around state) ∨
      ∃ ready events, s.prepare around state = .ok (ready, events) ∧ s.HasClient around state ∧
        ready.stats = state.stats := by
  unfold prepare HasClient
  by_cases hc : state.hasClient = true
  · rw [if_pos hc]
    exact .inr ⟨state, [], rfl, .inl hc, rfl⟩
  · rw [if_neg hc]
    dsimp only
    cases (Tls.ClientTls.build { caFile := s.caFile.map fun path ↦ (path, around.fileText path) } around.tls) with
    | error e => exact .inl ⟨e, rfl, by simp [hc]⟩
    | ok built => exact .inr ⟨_, _, rfl, .inr ⟨built, rfl⟩, rfl⟩

structure Concludes (s : Submitter) (endpoint : Uri) (batch : Batch) (state : SubmitterState) (rounds : List Round)
    (r : SubmissionResult) : Prop where
  result : r.result = (accountOfRounds rounds).map fun _ ↦ ()
  stats : r.state.stats = match accountOfRounds rounds with
    | .ok account => state.stats.record
        (recordOf batch.size account batch.payload.toUTF8.toList.length (s.body batch).body.length)
    | .error _ => state.stats
  requests : r.requests = rounds.flatMap fun round ↦ List.replicate round.begun (request endpoint (s.body batch))

theorem concludes_conclude (s : Submitter) (endpoint : Uri) (batch : Batch) {state ready : SubmitterState}
    (hstats : ready.stats = state.stats) (rounds : List Round) :
    s.Concludes endpoint batch state rounds
      (s.conclude endpoint batch.size batch.payload.toUTF8.toList ready rounds) := by
  constructor <;> unfold conclude <;> cases accountOfRounds rounds <;> simp [Except.map, hstats, body]

/-- A submission sends its batch in rounds, or leaves the statistics alone. -/
theorem submit?_cases (h : s.submit? around limit batch state = some r) :
    (∃ endpoint rounds, s.Sends around batch state endpoint ∧
        (s.plan endpoint).rounds? around.replies around.cancelledAt limit 0 0 = some rounds ∧
        s.Concludes endpoint batch state rounds r) ∨
      (∀ endpoint, ¬s.Sends around batch state endpoint) ∧ ¬s.Delivered batch r ∧ r.state.stats = state.stats ∧
        r.requests = [] := by
  unfold submit? at h
  split at h
  · next hempty =>
    obtain rfl := Option.some.inj h
    exact .inr ⟨fun _ hs ↦ by simp [hs.1] at hempty, fun hd ↦ by simp [hd.1] at hempty, rfl, rfl⟩
  next hempty =>
  obtain ⟨n, htrace⟩ := s.trace_fst around state batch.payload
  dsimp only at h
  rw [htrace] at h
  obtain ⟨r', hr, rfl⟩ := Option.map_eq_some_iff.mp h
  clear h
  cases hendpoint : s.endpoint with
  | none =>
    rw [hendpoint] at hr
    dsimp only at hr
    obtain rfl := Option.some.inj hr
    refine .inr ⟨fun _ hs ↦ ?_, fun hd ↦ ?_, ?_⟩
    · cases hendpoint.symm.trans hs.2.1
    · simp [Delivered, hendpoint] at hd
    · unfold print
      split
      · split <;> exact ⟨rfl, rfl⟩
      · exact ⟨rfl, rfl⟩
  | some endpoint =>
    rw [hendpoint] at hr
    dsimp only at hr
    unfold send? at hr
    rcases s.prepare_cases around { state with traced := n } with ⟨e, he, hno⟩ | ⟨ready, events, hp, hclient, hstats⟩
    · rw [he] at hr
      obtain rfl := Option.some.inj hr
      refine .inr ⟨fun _ hs ↦ hno hs.2.2, fun hd ↦ ?_, rfl, rfl⟩
      cases hd.2.2
    · rw [hp] at hr
      obtain ⟨rounds, hrounds, rfl⟩ := Option.map_eq_some_iff.mp hr
      have hc := s.concludes_conclude endpoint batch hstats rounds
      exact .inl ⟨endpoint, rounds, ⟨Bool.eq_false_iff.mpr hempty, hendpoint, hclient⟩, hrounds, hc.result, hc.stats,
        hc.requests⟩

inductive ComesTo : Outcome → Except SubmitError Unit → Prop
  | taken {body : List UInt8} {account : Account} : Account.Tells body account → ComesTo (.ok ⟨200, some body⟩) (.ok ())
  | failed {failure : Failure} : ComesTo (.error failure) (.error (.transport failure))
  | refused {response : Response} : response.status ≠ 200 → ComesTo (.ok response) (.error (.status response.status))
  | unread : ComesTo (.ok ⟨200, none⟩) (.error .unreadableBody)
  | undecoded {body : List UInt8} :
      (∀ account, ¬Account.Tells body account) → ComesTo (.ok ⟨200, some body⟩) (.error .undecodableBody)

theorem comesTo_accountOf (outcome : Outcome) : ComesTo outcome ((accountOf outcome).map fun _ ↦ ()) := by
  unfold accountOf
  cases outcome with
  | error failure => exact .failed
  | ok response =>
    obtain ⟨status, body⟩ := response
    by_cases hstatus : status = 200
    · subst hstatus
      cases body with
      | none => exact .unread
      | some body =>
        simp only [Response.isOk, decide_true, Bool.not_true, Bool.false_eq_true, if_false]
        cases hread : Account.read? body with
        | none =>
          apply ComesTo.undecoded
          intro account htells
          rw [Account.read?_eq_some_iff_tells.mpr htells] at hread
          cases hread
        | some account => exact .taken (Account.read?_eq_some_iff_tells.mp hread)
    · simp only [Response.isOk, hstatus, decide_false, Bool.not_false, if_true]
      have hrefused : (⟨status, body⟩ : Response).status ≠ 200 := hstatus
      exact .refused hrefused

theorem accountOf_eq_ok {outcome : Outcome} {account : Account} (h : accountOf outcome = .ok account) :
    ∃ body, outcome = .ok ⟨200, some body⟩ ∧ Account.Tells body account := by
  unfold accountOf at h
  split at h
  · cases h
  next response =>
  obtain ⟨status, body⟩ := response
  split at h
  · cases h
  next hok =>
  have hstatus : status = 200 := by simpa [Response.isOk] using hok
  subst hstatus
  split at h
  · cases h
  next bytes hbody =>
  split at h
  · cases h
  next told hread =>
  dsimp only at hbody
  cases h
  rw [hbody]
  exact ⟨bytes, rfl, Account.read?_eq_some_iff_tells.mp hread⟩

def accountAt : Ending → Except SubmitError Account
  | .answered outcome => accountOf outcome
  | _ => .error .cancelled

theorem accountOfRounds_eq {rounds : List Round} {ending : Ending}
    (h : rounds.getLast?.map Round.ending = some ending) : accountOfRounds rounds = accountAt ending := by
  rw [accountOfRounds, h]
  cases ending <;> rfl

theorem accountAt_eq_ok {ending : Ending} {account : Account} (h : accountAt ending = .ok account) :
    ∃ outcome, ending = .answered outcome ∧ accountOf outcome = .ok account := by
  cases ending with
  | answered outcome => exact ⟨outcome, rfl, h⟩
  | expired => cases h
  | cancelled => cases h

theorem length_requests {endpoint : Uri} {rounds : List Round} (h : s.Concludes endpoint batch state rounds r) :
    r.requests.length = (rounds.map Round.begun).sum := by
  rw [h.requests, List.length_flatMap]
  simp

theorem carries_of_mem {endpoint : Uri} {rounds : List Round} (h : s.Concludes endpoint batch state rounds r) :
    ∀ q ∈ r.requests, q.body = (s.body batch).body ∧ s.Carries endpoint batch q := by
  intro q hq
  rw [h.requests] at hq
  obtain ⟨round, -, hq⟩ := List.mem_flatMap.mp hq
  rw [List.eq_of_mem_replicate hq]
  exact ⟨rfl, s.carries_request endpoint batch⟩

theorem ne_record {stats : Stats} {record : SubmissionRecord} (h : record.sent ≠ 0) : stats.record record ≠ stats := by
  intro he
  have hsent : stats.sent + record.sent = stats.sent := congrArg Stats.sent he
  exact h (by simpa using hsent)

theorem stats_of_delivered (h : s.submit? around limit batch state = some r) (hd : s.Delivered batch r) :
    ∃ endpoint j body account, s.Sends around batch state endpoint ∧
      (s.plan endpoint).IsFirstUncut around.replies j ∧
      (s.plan endpoint).answerOf around.replies j = .ok ⟨200, some body⟩ ∧ Account.Tells body account ∧
      r.requests ≠ [] ∧ (∀ q ∈ r.requests, q.body = (s.body batch).body) ∧ r.state.stats = state.stats.record
        (recordOf batch.size account batch.payload.toUTF8.toList.length (s.body batch).body.length) := by
  rcases submit?_cases h with ⟨endpoint, rounds, hsends, hrounds, hc⟩ | ⟨-, hn, -⟩
  · obtain ⟨ending, last, hlast, hends⟩ := RoundPlan.rounds?_ends hrounds
    have hresult := hc.result
    rw [hd.2.2, accountOfRounds_eq hlast] at hresult
    have hstats := hc.stats
    rw [accountOfRounds_eq hlast] at hstats
    cases haccount : accountAt ending with
    | error e => rw [haccount] at hresult; cases hresult
    | ok account =>
      rw [haccount] at hstats
      obtain ⟨outcome, rfl, ha⟩ := accountAt_eq_ok haccount
      obtain ⟨hfirst, rfl, hbegun⟩ := hends.exists_isFirstUncut rfl
      obtain ⟨body, hbody, htells⟩ := accountOf_eq_ok ha
      have hrequests : r.requests ≠ [] := by
        rw [← length_requests hc] at hbegun
        exact List.ne_nil_of_length_pos hbegun
      exact ⟨endpoint, last, body, account, hsends, hfirst, hbody, htells, hrequests,
        fun q hq ↦ (carries_of_mem hc q hq).1, hstats⟩
  · exact absurd hd hn

theorem stats_of_not_delivered (h : s.submit? around limit batch state = some r) (hn : ¬s.Delivered batch r) :
    r.state.stats = state.stats := by
  rcases submit?_cases h with ⟨endpoint, rounds, hsends, -, hc⟩ | ⟨-, -, hstats, -⟩
  · rw [hc.stats]
    have hresult := hc.result
    cases haccount : accountOfRounds rounds with
    | error e => rfl
    | ok account =>
      rw [haccount] at hresult
      exact absurd ⟨hsends.1, by rw [hsends.2.1]; rfl, hresult⟩ hn
  · exact hstats

/-- The statistics change exactly if a batch was delivered, the number of its samples being one that can be counted. -/
theorem stats_ne_iff (h : s.submit? around limit batch state = some r) (hsize : batch.size < UInt64.size) :
    r.state.stats ≠ state.stats ↔ s.Delivered batch r := by
  refine ⟨fun hne ↦ Classical.not_not.mp fun hn ↦ hne (stats_of_not_delivered h hn), fun hd ↦ ?_⟩
  obtain ⟨_, _, _, account, -, -, -, -, -, -, hstats⟩ := stats_of_delivered h hd
  rw [hstats]
  refine ne_record fun hzero ↦ ?_
  have hzero : batch.size = 0 := by
    rw [← UInt64.toNat_ofNat_of_lt' hsize]
    exact congrArg UInt64.toNat hzero
  have hempty : batch.isEmpty = true := List.isEmpty_iff_length_eq_zero.mpr hzero
  rw [hd.1] at hempty
  cases hempty

/-- Whatever the broker answers, however often a request is repeated and a round started over: the statistics change by
one record if the broker has taken the batch, and not at all otherwise. What is sent is the payload each time, and it
ends with the first round that its deadline does not cut off, unless it is cancelled before that. -/
theorem submit?_accounts (h : s.submit? around limit batch state = some r) :
    let plan (endpoint : Uri) : RoundPlan := {
      policy := { backoff := s.backoff, maxAttempts := 10 }
      client := { timeout := 60 * 1000000000, serverName := s.serverName }
      uri := endpoint
      deadline := s.deadline }
    (¬s.Delivered batch r → r.state.stats = state.stats) ∧
    (s.Delivered batch r → ∃ endpoint j body account, s.Sends around batch state endpoint ∧
      (plan endpoint).IsFirstUncut around.replies j ∧
      (plan endpoint).answerOf around.replies j = .ok ⟨200, some body⟩ ∧ Account.Tells body account ∧ r.requests ≠ [] ∧
      ∀ q ∈ r.requests, r.state.stats = {
        filtered := state.stats.filtered
        brokerFiltered := state.stats.brokerFiltered + account.filtered
        received := state.stats.received + account.received
        sent := state.stats.sent + .ofNat batch.size
        sentBytes := state.stats.sentBytes + .ofNat batch.payload.utf8ByteSize
        sentBytesWire := state.stats.sentBytesWire + .ofNat q.body.length }) ∧
    (batch.size < UInt64.size → (r.state.stats ≠ state.stats ↔ s.Delivered batch r)) ∧
    ((∀ endpoint, ¬s.Sends around batch state endpoint) → r.requests = []) ∧
    ∀ endpoint, s.Sends around batch state endpoint →
      let p := plan endpoint
      (∀ before attempt,
        p.client.Ends endpoint (around.replies (before + attempt - 1)) (p.reply around.replies before attempt)) ∧
      (∀ j, p.IsFirstUncut around.replies j →
        (¬CancelledBy around.cancelledAt (p.endOf around.replies j) →
          ComesTo (p.answerOf around.replies j) r.result ∧
            r.requests.length = p.begunBefore around.replies (j + 1)) ∧
        (CancelledBy around.cancelledAt (p.endOf around.replies j) → r.result = .error .cancelled)) ∧
      ((∀ j, p.IsCutOff around.replies j) → r.result = .error .cancelled) ∧
      (∀ j, CancelledBy around.cancelledAt (j * p.deadline) → r.requests.length ≤ p.begunBefore around.replies j) ∧
      ∀ q ∈ r.requests, s.Carries endpoint batch q := by
  intro plan
  refine ⟨stats_of_not_delivered h, fun hd ↦ ?_, stats_ne_iff h, fun hno ↦ ?_, fun endpoint hsends ↦ ?_⟩
  · obtain ⟨endpoint, j, body, account, hsends, hfirst, hanswer, htells, hrequests, hbodies, hstats⟩ :=
      stats_of_delivered h hd
    rw [length_toList] at hstats
    refine ⟨endpoint, j, body, account, hsends, hfirst, hanswer, htells, hrequests, fun q hq ↦ ?_⟩
    rw [hbodies q hq]
    exact hstats
  · rcases submit?_cases h with ⟨endpoint, rounds, hsends, -⟩ | ⟨-, -, -, hrequests⟩
    · exact absurd hsends (hno endpoint)
    · exact hrequests
  rcases submit?_cases h with ⟨sent, rounds, hsent, hrounds, hc⟩ | ⟨hnot, -⟩
  · obtain rfl : sent = endpoint := Option.some.inj (hsent.2.1.symm.trans hsends.2.1)
    obtain ⟨ending, last, hlast, hends⟩ := RoundPlan.rounds?_ends hrounds
    have hresult : r.result = (accountAt ending).map fun _ ↦ () := by rw [hc.result, accountOfRounds_eq hlast]
    refine ⟨fun before attempt ↦ Client.ends_reply _ _ _, fun j hj ↦ ⟨fun hlive ↦ ?_, fun hcancelled ↦ ?_⟩,
      fun hall ↦ ?_, fun j hcancelled ↦ ?_, fun q hq ↦ (carries_of_mem hc q hq).2⟩
    · obtain ⟨he, hbegun⟩ := (hends.of_isFirstUncut hj).1 hlive
      rw [hresult, he, length_requests hc, hbegun]
      exact ⟨comesTo_accountOf _, rfl⟩
    · rw [hresult, (hends.of_isFirstUncut hj).2 hcancelled]
      rfl
    · rw [hresult, hends.of_forall_isCutOff hall]
      rfl
    · rw [length_requests hc]
      exact hends.begun_le_of_cancelledBy hcancelled
  · exact absurd hsends (hnot endpoint)

/-- The first round stalls behind a refused attempt, and the second one ends before the cancellation. -/
theorem submit?_accounts_restarted :
    let s : Submitter := {
      endpoint := some { scheme := some "http".toList, authority := some { place := "broker".toList } }
      dryRun := false, scheme := .gzip, threshold := 1024, traceDirectory := none, deadline := 5
      caFile := none, serverName := none, backoff := { least := 1, greatest := 4 } }
    let replies (n : Nat) : Reply :=
      if n = 0 then ⟨some 3, .ok ⟨503, some []⟩⟩
      else if n = 1 then ⟨none, .error .timeout⟩
      else ⟨some 1, .ok ⟨200, some "\x7b\"stats\":1\x7d".toUTF8.toList⟩⟩
    let around : Surroundings := { replies, cancelledAt := some 9 }
    let batch : Batch := OrderedMap.empty.insert "up" (.of (.uint64 1) (some 7))
    ∃ r, s.submit? around 2 batch {} = some r ∧ s.Delivered batch r ∧ r.requests.length = 3 ∧
      r.state.stats = { received := 1, sent := 1, sentBytes := 39, sentBytesWire := 39 } := by
  intro s replies around batch
  have hrun : ((s.submit? around 2 batch {}).map fun r ↦ (r.state.stats, r.requests.length)) =
      some ({ received := 1, sent := 1, sentBytes := 39, sentBytesWire := 39 }, 3) := by decide +kernel
  obtain ⟨r, hr, he⟩ := Option.map_eq_some_iff.mp hrun
  obtain ⟨hstats, hrequests⟩ := Prod.ext_iff.mp he
  have hchanged := (submit?_accounts hr).2.2.1 (by decide +kernel)
  refine ⟨r, hr, hchanged.mp ?_, hrequests, hstats⟩
  dsimp only at hstats
  rw [hstats]
  decide

end MetricRelay.Submitter
