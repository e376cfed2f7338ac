import MetricRelay.Collection.Endpoint
import MetricRelay.Proofs.Cycle.Account
import MetricRelay.Proofs.Submission.Accounting
import MetricRelay.Proofs.Translation.Run

namespace MetricRelay.Endpoint

open Http Submission Translation

variable {e : Endpoint} {around : CollectionSurroundings} {limit : Nat} {timestamp : UInt64} {lease : Lease}
  {state : SubmitterState} {c : Collection} {text : String}

def answer (e : Endpoint) (around : CollectionSurroundings) : Nat × Http.Outcome :=
  ({ timeout := 30 * 1000000000 } : Client).reply e.url around.scraped

def Awaited (e : Endpoint) (around : CollectionSurroundings) : Prop :=
  ¬CancelledBy around.cancelledAt (e.answer around).1

/-- The scrape brings a text: it is answered with status 200, and the body is the text in UTF-8. -/
def Brings (e : Endpoint) (around : CollectionSurroundings) (text : String) : Prop :=
  e.Awaited around ∧ (e.answer around).2 = .ok ⟨200, some text.toUTF8.toList⟩

/-- The scrape ends without an answer, or with one that holds no text. -/
def ScrapeFails (e : Endpoint) (around : CollectionSurroundings) : Prop :=
  e.Awaited around ∧
    ((∃ failure, (e.answer around).2 = .error failure) ∨
      ∃ response, (e.answer around).2 = .ok response ∧
        (response.status ≠ 200 ∨ response.body = none ∨
          ∃ bytes, response.body = some bytes ∧ ∀ text : String, text.toUTF8.toList ≠ bytes))

def signal (e : Endpoint) (around : CollectionSurroundings) (place : Nat) : Bool :=
  around.cancelledAt.any (· ≤ (e.answer around).1 + around.pace place)

def translation (e : Endpoint) (around : CollectionSurroundings) (timestamp : UInt64) (state : SubmitterState)
    (text : String) : Translation.Outcome :=
  translate e.writer { histogramMode := e.histogramMode, timestamp, dynamic := e.dynamic } e.baseTags
    (e.signal around) text { stats := state.stats }

/-- The tagged names of the points that an exposition gives rise to, in the order in which they are written. -/
def taggedNames (e : Endpoint) (timestamp : UInt64) (families : List Exposition.Family) : List String :=
  let written := attempts { histogramMode := e.histogramMode, timestamp, dynamic := e.dynamic } e.baseTags families
  ((writable written).filterMap e.writer.insertion?).map Prod.fst

/-- What surrounds the submission of a collection, whose moments are those from its own start on. -/
def afterTranslation (e : Endpoint) (around : CollectionSurroundings) (summary : Summary) : Surroundings :=
  { around with cancelledAt := around.cancelledAt.map (· - ((e.answer around).1 + around.pace summary.families)) }

def Fails (result : Except CollectionError Unit) : Prop := ∃ error, result = .error error

def Delivers (e : Endpoint) (submission : Option (Batch × SubmissionResult)) : Prop :=
  ∃ batch r, submission = some (batch, r) ∧ e.submitter.Delivered batch r

/-- Some points were denied, and a batch with these tagged names is recorded once, with the length of a request. -/
def Recorded (names : List String) (batch : Batch) (q : Request) (before after : Stats) : Prop :=
  ∃ count, ∃ account : Account, after = {
    filtered := before.filtered + count
    brokerFiltered := before.brokerFiltered + account.filtered
    received := before.received + account.received
    sent := before.sent + .ofNat names.length
    sentBytes := before.sentBytes + .ofNat batch.payload.utf8ByteSize
    sentBytesWire := before.sentBytesWire + .ofNat q.body.length }

/-- The ways a collection that has the lease can go, with its result, the statistics behind it and its submission. -/
inductive Course (e : Endpoint) (around : CollectionSurroundings) (limit : Nat) (timestamp : UInt64)
    (state : SubmitterState) : Except CollectionError Unit → Stats → Option (Batch × SubmissionResult) → Prop
  | scrapeCancelled : ¬e.Awaited around → Course e around limit timestamp state (.ok ()) state.stats none
  | scrapeFailed {error : CollectionError} :
      e.ScrapeFails around → Course e around limit timestamp state (.error error) state.stats none
  | translationFailed {text : String} {cause : TranslateError} {error : CollectionError} :
      e.Brings around text → (e.translation around timestamp state text).result = .error cause →
      Course e around limit timestamp state (.error error) (e.translation around timestamp state text).ledger.stats none
  | translationCancelled {text : String} {summary : Summary} :
      e.Brings around text → (e.translation around timestamp state text).result = .ok summary →
      summary.cancelled = true →
      Course e around limit timestamp state (.ok ()) (e.translation around timestamp state text).ledger.stats none
  | submitted {text : String} {summary : Summary} {r : SubmissionResult} {result : Except CollectionError Unit} :
      e.Brings around text → (e.translation around timestamp state text).result = .ok summary →
      summary.cancelled = false →
      e.submitter.submit? (e.afterTranslation around summary) limit
        (e.translation around timestamp state text).ledger.batch
        { state with stats := (e.translation around timestamp state text).ledger.stats } = some r →
      (Fails result ↔ ∃ cause, r.result = .error cause ∧ cause ≠ .cancelled) →
      Course e around limit timestamp state result r.state.stats
        (some ((e.translation around timestamp state text).ledger.batch, r))

theorem textOf_eq_ok_iff {outcome : Http.Outcome} :
    textOf outcome = .ok text ↔ outcome = .ok ⟨200, some text.toUTF8.toList⟩ := by
  constructor
  · intro h
    unfold textOf at h
    split at h
    · cases h
    next response =>
    obtain ⟨status, body⟩ := response
    split at h
    · cases h
    next hok =>
    have hstatus : status = 200 := by simpa [Response.isOk] using hok
    subst hstatus
    split at h
    · cases h
    next bytes hbody =>
    split at h
    · cases h
    next read hread =>
    cases h
    dsimp only at hbody
    rw [hbody, fromUTF8?_eq_some_iff.mp hread]
  · rintro rfl
    have hread : String.fromUTF8? text.toUTF8.toList.toByteArray = some text := fromUTF8?_eq_some_iff.mpr rfl
    simp only [textOf, Response.isOk, decide_true, Bool.not_true, Bool.false_eq_true, if_false, hread]

theorem of_textOf_eq_error {outcome : Http.Outcome} {fault : CollectionFault} (h : textOf outcome = .error fault) :
    (∃ failure, outcome = .error failure) ∨
      ∃ response, outcome = .ok response ∧
        (response.status ≠ 200 ∨ response.body = none ∨
          ∃ bytes, response.body = some bytes ∧ ∀ text : String, text.toUTF8.toList ≠ bytes) := by
  cases outcome with
  | error failure => exact .inl ⟨failure, rfl⟩
  | ok response =>
    refine .inr ⟨response, rfl, ?_⟩
    obtain ⟨status, body⟩ := response
    by_cases hstatus : status = 200
    · cases body with
      | none => exact .inr (.inl rfl)
      | some bytes =>
        refine .inr (.inr ⟨bytes, rfl, fun text hbytes ↦ ?_⟩)
        rw [hstatus, ← hbytes, textOf_eq_ok_iff.mpr rfl] at h
        cases h
    · exact .inl hstatus

theorem Brings.eq {other : String} (h : e.Brings around text) (ho : e.Brings around other) : text = other := by
  have hbytes := h.2.symm.trans ho.2
  have htext := textOf_eq_ok_iff.mpr h.2
  rw [textOf_eq_ok_iff.mpr ho.2] at htext
  exact (Except.ok.inj htext).symm

theorem Brings.not_scrapeFails (h : e.Brings around text) : ¬e.ScrapeFails around := by
  rintro ⟨-, ⟨failure, hf⟩ | ⟨response, hr, hpart⟩⟩
  · cases h.2.symm.trans hf
  · cases h.2.symm.trans hr
    rcases hpart with hstatus | hbody | ⟨bytes, hbody, hnot⟩
    · exact hstatus rfl
    · cases hbody
    · exact hnot text (Option.some.inj hbody)

theorem deliver?_cases {moment : Nat} {batch : Batch} (h : e.deliver? around limit moment batch state = some c) :
    ∃ r, e.submitter.submit? { around with cancelledAt := around.cancelledAt.map (· - moment) } limit batch state =
        some r ∧
      c.submission = some (batch, r) ∧ c.state = r.state ∧ c.requests = r.requests ∧
      (Fails c.result ↔ ∃ cause, r.result = .error cause ∧ cause ≠ .cancelled) := by
  obtain ⟨r, hr, rfl⟩ := Option.map_eq_some_iff.mp h
  refine ⟨r, hr, rfl, rfl, rfl, ?_⟩
  unfold Fails
  cases hresult : r.result with
  | ok u => simp
  | error cause => cases cause <;> simp

theorem translateAndDeliver?_course (hb : e.Brings around text)
    (h : e.translateAndDeliver? around limit timestamp (e.answer around).1 text state = some c) :
    e.Course around limit timestamp state c.result c.state.stats c.submission ∧
      c.requests = c.submission.elim [] fun submission ↦ submission.2.requests := by
  have htranslation : translate e.writer (e.options timestamp) e.baseTags
      (fun place ↦ around.cancelledAt.any (· ≤ (e.answer around).1 + around.pace place)) text
        { stats := state.stats } = e.translation around timestamp state text := rfl
  unfold translateAndDeliver? at h
  dsimp only at h
  rw [htranslation] at h
  split at h
  · next cause hfailed =>
    cases h
    exact ⟨.translationFailed hb hfailed, rfl⟩
  next summary htranslated =>
  split at h
  · next hcancelled =>
    cases h
    exact ⟨.translationCancelled hb htranslated hcancelled, rfl⟩
  next hlive =>
  obtain ⟨delivered, hd, rfl⟩ := Option.map_eq_some_iff.mp h
  obtain ⟨r, hr, hsubmission, hstate, hrequests, hfails⟩ := deliver?_cases hd
  dsimp only
  rw [hsubmission, hstate, hrequests]
  exact ⟨.submitted hb htranslated (Bool.eq_false_iff.mpr hlive) hr hfails, rfl⟩

theorem collectLeased?_course (h : e.collectLeased? around limit timestamp state = some c) :
    e.Course around limit timestamp state c.result c.state.stats c.submission ∧
      c.requests = (if around.cancelledAt = some 0 then [] else [e.request]) ++
        c.submission.elim [] fun submission ↦ submission.2.requests := by
  unfold collectLeased? at h
  dsimp only at h
  split at h
  · next hcancelled =>
    cases h
    exact ⟨.scrapeCancelled fun hn ↦ hn (any_le_iff.mp hcancelled), (List.append_nil _).symm⟩
  next hlive =>
  have hawaited : e.Awaited around := fun hc ↦ hlive (any_le_iff.mpr hc)
  split at h
  · next fault hfault =>
    cases h
    exact ⟨.scrapeFailed ⟨hawaited, of_textOf_eq_error hfault⟩, (List.append_nil _).symm⟩
  next text htext =>
  obtain ⟨delivered, hd, rfl⟩ := Option.map_eq_some_iff.mp h
  obtain ⟨hcourse, hrequests⟩ := translateAndDeliver?_course ⟨hawaited, textOf_eq_ok_iff.mp htext⟩ hd
  exact ⟨hcourse, congrArg _ hrequests⟩

section

variable {result : Except CollectionError Unit} {stats : Stats} {submission : Option (Batch × SubmissionResult)}
  {summary : Summary}

theorem not_fails_ok : ¬Fails (.ok ()) := by
  rintro ⟨error, he⟩
  cases he

theorem Course.isSome_iff (h : e.Course around limit timestamp state result stats submission) :
    submission.isSome = true ↔ ∃ text summary, e.Brings around text ∧
      (e.translation around timestamp state text).result = .ok summary ∧ summary.cancelled = false := by
  cases h with
  | scrapeCancelled hc =>
    refine iff_of_false Bool.false_ne_true ?_
    rintro ⟨text, -, hb, -⟩
    exact hc hb.1
  | scrapeFailed hf =>
    refine iff_of_false Bool.false_ne_true ?_
    rintro ⟨text, -, hb, -⟩
    exact hb.not_scrapeFails hf
  | translationFailed hb hf =>
    refine iff_of_false Bool.false_ne_true ?_
    rintro ⟨other, summary, ho, ht, -⟩
    rw [ho.eq hb, hf] at ht
    cases ht
  | translationCancelled hb ht hc =>
    refine iff_of_false Bool.false_ne_true ?_
    rintro ⟨other, summary, ho, hs, hl⟩
    rw [ho.eq hb, ht] at hs
    cases hs
    cases hc.symm.trans hl
  | submitted hb ht hl => exact iff_of_true rfl ⟨_, _, hb, ht, hl⟩

theorem Course.fails_iff (h : e.Course around limit timestamp state result stats submission) :
    Fails result ↔ e.ScrapeFails around ∨
      (∃ text cause, e.Brings around text ∧ (e.translation around timestamp state text).result = .error cause) ∨
      ∃ batch r cause, submission = some (batch, r) ∧ r.result = .error cause ∧ cause ≠ .cancelled := by
  cases h with
  | scrapeCancelled hc =>
    refine iff_of_false not_fails_ok ?_
    rintro (hf | ⟨text, cause, hb, -⟩ | ⟨batch, r, cause, hs, -⟩)
    · exact hc hf.1
    · exact hc hb.1
    · cases hs
  | scrapeFailed hf => exact iff_of_true ⟨_, rfl⟩ (.inl hf)
  | translationFailed hb hf => exact iff_of_true ⟨_, rfl⟩ (.inr (.inl ⟨_, _, hb, hf⟩))
  | translationCancelled hb ht hc =>
    refine iff_of_false not_fails_ok ?_
    rintro (hf | ⟨other, cause, ho, he⟩ | ⟨batch, r, cause, hs, -⟩)
    · exact hb.not_scrapeFails hf
    · rw [ho.eq hb, ht] at he
      cases he
    · cases hs
  | submitted hb ht hl hr hfails =>
    refine hfails.trans ⟨fun ⟨cause, hc⟩ ↦ .inr (.inr ⟨_, _, cause, rfl, hc⟩), ?_⟩
    rintro (hf | ⟨other, cause, ho, he⟩ | ⟨batch, r, cause, hs, hc⟩)
    · exact absurd hf hb.not_scrapeFails
    · rw [ho.eq hb, ht] at he
      cases he
    · cases hs
      exact ⟨cause, hc⟩

/-- A translation counts the points that the filter denies, and changes no other statistics. -/
theorem exists_addFiltered (e : Endpoint) (around : CollectionSurroundings) (timestamp : UInt64)
    (state : SubmitterState) (text : String) :
    ∃ count, (e.translation around timestamp state text).ledger.stats = state.stats.addFiltered count := by
  cases hread : Exposition.read text with
  | error cause =>
    refine ⟨0, ?_⟩
    rw [translation, Translation.translate, hread]
    simp [Stats.addFiltered]
  | ok families =>
    obtain ⟨q, hq, -, -, -, hstats⟩ :=
      translate_after hread e.writer (e.options timestamp) e.baseTags (e.signal around) { stats := state.stats }
    exact ⟨_, hstats.trans hq.stats⟩

/-- A translation that is not cancelled comes to the batch of one that no cancellation can reach. -/
theorem batch_of_live (ht : (e.translation around timestamp state text).result = .ok summary)
    (hl : summary.cancelled = false) :
    ∃ families, Exposition.read text = .ok families ∧
      (e.translation around timestamp state text).ledger.batch =
        (translate e.writer (e.options timestamp) e.baseTags (fun _ ↦ false) text {}).ledger.batch ∧
      (e.translation around timestamp state text).ledger.batch.keys = (e.taggedNames timestamp families).eraseDups := by
  cases hread : Exposition.read text with
  | error cause =>
    rw [translation, Translation.translate, hread] at ht
    cases ht
  | ok families =>
    obtain ⟨q, hq, hresult, -, hbatch, -⟩ :=
      translate_after hread e.writer (e.options timestamp) e.baseTags (e.signal around) { stats := state.stats }
    obtain ⟨p, hp, -, -, hnever, -⟩ :=
      translate_after hread e.writer (e.options timestamp) e.baseTags (fun _ ↦ false) {}
    have hall : visited (e.signal around) 0 families = families := by
      refine visited_eq_of_length (Nat.le_of_not_lt fun hlt ↦ ?_)
      have hsummary := hresult.symm.trans ht
      split at hsummary
      · cases hsummary
      · cases hsummary
        simp [hlt] at hl
    rw [hall] at hq
    rw [visited_of_never] at hp
    have hsame : (e.translation around timestamp state text).ledger.batch = q.ledger.batch := hbatch
    refine ⟨families, rfl, ?_, ?_⟩
    · rw [hsame, hnever, hq.batch, hp.batch]
    · rw [hsame, hq.batch]
      exact OrderedMap.keys_insertAll_empty _

theorem Course.stats_of_not_delivers (h : e.Course around limit timestamp state result stats submission)
    (hn : ¬e.Delivers submission) : ∃ count, stats = state.stats.addFiltered count := by
  cases h with
  | scrapeCancelled | scrapeFailed => exact ⟨0, by simp [Stats.addFiltered]⟩
  | translationFailed | translationCancelled => exact e.exists_addFiltered around timestamp state _
  | submitted hb ht hl hr hfails =>
    rw [Submitter.stats_of_not_delivered hr fun hd ↦ hn ⟨_, _, rfl, hd⟩]
    exact e.exists_addFiltered around timestamp state _

theorem Course.stats_of_delivered {batch : Batch} {r : SubmissionResult}
    (h : e.Course around limit timestamp state result stats (some (batch, r))) (hd : e.submitter.Delivered batch r) :
    r.requests ≠ [] ∧ ∃ count, ∃ account : Account, ∀ q ∈ r.requests,
      stats = (state.stats.addFiltered count).record
        (Submitter.recordOf batch.size account batch.payload.utf8ByteSize q.body.length) := by
  cases h with
  | @submitted text summary r result hb ht hl hr hfails =>
    obtain ⟨count, hcount⟩ := e.exists_addFiltered around timestamp state text
    obtain ⟨_, _, _, account, -, -, -, -, hrequests, hbodies, hstats⟩ := Submitter.stats_of_delivered hr hd
    refine ⟨hrequests, count, account, fun q hq ↦ ?_⟩
    rw [hbodies q hq, hstats, hcount, length_toList]
    rfl

theorem Course.of_submission {batch : Batch} {r : SubmissionResult}
    (h : e.Course around limit timestamp state result stats (some (batch, r))) :
    ∃ text summary families, e.Brings around text ∧ Exposition.read text = .ok families ∧
      (e.translation around timestamp state text).result = .ok summary ∧ summary.cancelled = false ∧
      batch = (translate e.writer (e.options timestamp) e.baseTags (fun _ ↦ false) text {}).ledger.batch ∧
      e.submitter.submit? (e.afterTranslation around summary) limit batch
        { state with stats := (e.translation around timestamp state text).ledger.stats } = some r ∧
      (e.submitter.Delivered batch r →
        r.requests ≠ [] ∧
          ∀ q ∈ r.requests, Recorded (e.taggedNames timestamp families).eraseDups batch q state.stats stats) := by
  have hrecorded := h.stats_of_delivered
  cases h with
  | submitted hb ht hl hr hfails =>
    obtain ⟨families, hread, hnever, hkeys⟩ := batch_of_live ht hl
    refine ⟨_, _, families, hb, hread, ht, hl, hnever, hr, fun hd ↦ ?_⟩
    obtain ⟨hrequests, count, account, hstats⟩ := hrecorded hd
    refine ⟨hrequests, fun q hq ↦ ⟨count, account, ?_⟩⟩
    rw [hstats q hq, ← hkeys, OrderedMap.keys, List.length_map]
    rfl

end

/-- Whatever the scrape, the cancellation and the broker do: a collection whose lease is held does nothing, and every
other one frees it. It submits at most one batch, which is that of the whole text that the scrape has brought, and this
batch alone is recorded. It fails if the scrape, the translation or the submission does, a cancellation apart. -/
theorem collect?_covers (h : e.collect? around limit timestamp lease state = some c) :
    let scrape : Request := { method := "GET", uri := e.url, headers := [("accept", "text/plain;version=0.0.4")] }
    let options : Options := { histogramMode := e.histogramMode, timestamp, dynamic := e.dynamic }
    (lease.held = true →
      c.lease = lease ∧ c.requests = [] ∧ c.submission = none ∧ c.state = state ∧ c.result = .ok ()) ∧
    (lease.held = false →
      c.lease.held = false ∧
      ({ timeout := 30 * 1000000000 } : Client).Ends e.url around.scraped (e.answer around) ∧
      c.requests = (if around.cancelledAt = some 0 then [] else [scrape]) ++
        (c.submission.elim [] fun submission ↦ submission.2.requests) ∧
      (c.submission.isSome = true ↔ ∃ text summary, e.Brings around text ∧
        (e.translation around timestamp state text).result = .ok summary ∧ summary.cancelled = false) ∧
      (∀ batch r, c.submission = some (batch, r) →
        ∃ text summary families, e.Brings around text ∧ Exposition.read text = .ok families ∧
          (e.translation around timestamp state text).result = .ok summary ∧ summary.cancelled = false ∧
          batch = (translate e.writer options e.baseTags (fun _ ↦ false) text {}).ledger.batch ∧
          e.submitter.submit? (e.afterTranslation around summary) limit batch
            { state with stats := (e.translation around timestamp state text).ledger.stats } = some r ∧
          (e.submitter.Delivered batch r →
            r.requests ≠ [] ∧ ∀ q ∈ r.requests,
              Recorded (e.taggedNames timestamp families).eraseDups batch q state.stats c.state.stats)) ∧
      (¬e.Delivers c.submission →
        ∃ count, c.state.stats = { state.stats with filtered := state.stats.filtered + count }) ∧
      (Fails c.result ↔ e.ScrapeFails around ∨
        (∃ text cause, e.Brings around text ∧ (e.translation around timestamp state text).result = .error cause) ∨
        ∃ batch r cause, c.submission = some (batch, r) ∧ r.result = .error cause ∧ cause ≠ .cancelled)) := by
  intro scrape options
  unfold collect? at h
  constructor
  · intro hheld
    rw [Lease.acquire?, if_pos hheld] at h
    cases h
    exact ⟨rfl, rfl, rfl, rfl, rfl⟩
  · intro hfree
    rw [Lease.acquire?, if_neg (by simp [hfree])] at h
    obtain ⟨leased, hl, rfl⟩ := Option.map_eq_some_iff.mp h
    obtain ⟨hcourse, hrequests⟩ := collectLeased?_course hl
    refine ⟨rfl, Client.ends_reply _ _ _, hrequests, hcourse.isSome_iff, fun batch r hs ↦ ?_,
      hcourse.stats_of_not_delivers, hcourse.fails_iff⟩
    dsimp only at hs
    rw [hs] at hcourse
    exact hcourse.of_submission

/-- One of three points is denied, one replaces another, and the broker takes the one that is left. -/
theorem collect?_covers_replaced :
    let place (host : String) : Uri := { scheme := some "http".toList, authority := some { place := host.toList } }
    let e : Endpoint := {
      id := "a", url := place "a", baseTags := .empty, dynamic := false, histogramMode := .cumulative
      writer := { encoder := {}, filter := ⟨[⟨.allow, "x", true, fun name ↦ name = "x"⟩]⟩ }
      submitter := {
        endpoint := some (place "broker"), dryRun := false, scheme := .gzip, threshold := 1024, traceDirectory := none
        deadline := 5, caFile := none, serverName := none, backoff := { least := 1, greatest := 4 } } }
    let around : CollectionSurroundings := {
      scraped := ⟨some 2, .ok ⟨200, some "x 1\ny 2\nx 3\n".toUTF8.toList⟩⟩
      replies := fun _ ↦ ⟨some 1, .ok ⟨200, some "\x7b\"stats\":1\x7d".toUTF8.toList⟩⟩, cancelledAt := some 9 }
    ∃ c, e.collect? around 1 7 {} {} = some c ∧ c.lease.held = false ∧ c.requests.length = 2 ∧
      e.Delivers c.submission ∧
      c.state.stats = { filtered := 1, received := 1, sent := 1, sentBytes := 40, sentBytesWire := 40 } := by
  intro place e around
  have hrun : ((e.collect? around 1 7 {} {}).map fun c ↦ (c.state.stats, c.requests.length)) =
      some ({ filtered := 1, received := 1, sent := 1, sentBytes := 40, sentBytesWire := 40 }, 2) := by decide +kernel
  obtain ⟨c, hc, he⟩ := Option.map_eq_some_iff.mp hrun
  obtain ⟨hstats, hrequests⟩ := Prod.ext_iff.mp he
  dsimp only at hstats
  obtain ⟨hlease, -, -, -, -, hkept, -⟩ := (collect?_covers hc).2 rfl
  refine ⟨c, hc, hlease, hrequests, Classical.not_not.mp fun hn ↦ ?_, hstats⟩
  obtain ⟨count, hcount⟩ := hkept hn
  rw [hstats] at hcount
  cases congrArg Stats.sent hcount

/-- To the cycle that it belongs to, a collection changes the statistics by what the filter denies, and then by what the
broker has taken. -/
theorem run?_change_of_collect? {o : Orchestrator} {s : CycleState} {call collector : Nat}
    (hcollecting : Orchestrator.isCollecting s call collector = true) (hs : s.stats = state.stats)
    (hfree : lease.held = false) (h : e.collect? around limit timestamp lease state = some c) :
    (¬e.Delivers c.submission → ∃ count, o.run? s [.change call collector { filtered := count }] =
      some { s with stats := c.state.stats }) ∧
    ∀ batch r, c.submission = some (batch, r) → e.submitter.Delivered batch r →
      ∃ count, ∃ account : Account, ∀ q ∈ r.requests,
        o.run? s [.change call collector { filtered := count }, .change call collector
          (Submitter.recordOf batch.size account batch.payload.utf8ByteSize q.body.length).amount] =
            some { s with stats := c.state.stats } := by
  unfold collect? at h
  rw [Lease.acquire?, if_neg (by simp [hfree])] at h
  obtain ⟨leased, hl, rfl⟩ := Option.map_eq_some_iff.mp h
  have hcourse := (collectLeased?_course hl).1
  constructor
  · intro hn
    obtain ⟨count, hstats⟩ := hcourse.stats_of_not_delivers hn
    refine ⟨count, (Orchestrator.run?_change hcollecting [_]).trans ?_⟩
    rw [hs, List.sum_singleton, ← Stats.addFiltered_eq, ← hstats]
  · intro batch r hsubmission hd
    dsimp only at hsubmission
    rw [hsubmission] at hcourse
    obtain ⟨-, count, account, hstats⟩ := hcourse.stats_of_delivered hd
    refine ⟨count, account, fun q hq ↦ (Orchestrator.run?_change hcollecting [_, _]).trans ?_⟩
    rw [hs, List.sum_pair, ← add_assoc, ← Stats.addFiltered_eq, ← Stats.record_eq, ← hstats q hq]

end MetricRelay.Endpoint
