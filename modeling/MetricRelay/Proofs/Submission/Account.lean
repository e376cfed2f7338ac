import MetricRelay.Submission.Account

namespace MetricRelay.Submission.Account

def field? (json : Json) (name : String) (place : Nat) : Option Json :=
  match json with
  | .object members => (members.find? (·.1 = name)).map Prod.snd
  | .array items => items[place]?
  | _ => none

/-- An object that names no field twice, or a list without items behind those of the fields. -/
def IsDocument : Json → Prop
  | .object members => ∀ name ∈ ["error", "stats", "filtered"], (members.filter (·.1 = name)).length ≤ 1
  | .array items => items.length ≤ 3
  | _ => False

def CountIn (field : Option Json) (n : UInt64) : Prop :=
  match field with
  | some value => value = .number (.unsigned n)
  | none => n = 0

def TextIn (field : Option Json) (s : String) : Prop :=
  match field with
  | some value => value = .string s
  | none => s = ""

inductive Tells : List UInt8 → Account → Prop
  | nothing : Tells [] {}
  | document {body : List UInt8} {text : String} {json : Json} {account : Account} :
      body ≠ [] → String.fromUTF8? body.toByteArray = some text → Json.read? text = some json → IsDocument json →
      TextIn (field? json "error" 0) account.error → CountIn (field? json "stats" 1) account.received →
      CountIn (field? json "filtered" 2) account.filtered → Tells body account

variable {α : Type} {read : Json → Option α} {default value : α}

def ReadFrom (field : Option Json) (read : Json → Option α) (default value : α) : Prop :=
  match field with
  | some json => read json = some value
  | none => value = default

theorem member?_eq_some_iff {members : List (String × Json)} (name : String) (place : Nat) :
    member? members name read default = some value ↔
      (members.filter (·.1 = name)).length ≤ 1 ∧ ReadFrom (field? (.object members) name place) read default value := by
  rw [member?, field?, ← List.head?_filter]
  cases members.filter (·.1 = name) with
  | nil => simp [ReadFrom, eq_comm]
  | cons first rest => cases rest <;> simp [ReadFrom]

theorem item?_eq_some_iff {items : List Json} (place : Nat) (name : String) :
    item? items place read default = some value ↔ ReadFrom (field? (.array items) name place) read default value := by
  rw [item?, field?]
  cases items[place]? <;> simp [ReadFrom, eq_comm]

theorem readFrom_count? {field : Option Json} {n : UInt64} : ReadFrom field count? 0 n ↔ CountIn field n := by
  cases field with
  | none => rfl
  | some json =>
    rw [ReadFrom, CountIn]
    constructor
    · intro h
      unfold count? at h
      split at h
      · rw [Option.some.inj h]
      · cases h
    · rintro rfl
      rfl

theorem readFrom_text? {field : Option Json} {s : String} : ReadFrom field text? "" s ↔ TextIn field s := by
  cases field with
  | none => rfl
  | some json =>
    rw [ReadFrom, TextIn]
    constructor
    · intro h
      unfold text? at h
      split at h
      · rw [Option.some.inj h]
      · cases h
    · rintro rfl
      rfl

theorem ofJson?_eq_some_iff {json : Json} {account : Account} :
    ofJson? json = some account ↔
      IsDocument json ∧ TextIn (field? json "error" 0) account.error ∧
        CountIn (field? json "stats" 1) account.received ∧ CountIn (field? json "filtered" 2) account.filtered := by
  obtain ⟨error, received, filtered⟩ := account
  simp only [← readFrom_text?, ← readFrom_count?]
  cases json with
  | object members =>
    simp only [ofJson?, IsDocument, Option.bind_eq_bind, Option.pure_def, Option.bind_eq_some_iff,
      member?_eq_some_iff "error" 0, member?_eq_some_iff "stats" 1, member?_eq_some_iff "filtered" 2,
      Option.some.injEq, Account.mk.injEq, List.forall_mem_cons]
    constructor
    · rintro ⟨_, ⟨he, he'⟩, _, ⟨hr, hr'⟩, _, ⟨hf, hf'⟩, rfl, rfl, rfl⟩
      exact ⟨⟨he, hr, hf, by simp⟩, he', hr', hf'⟩
    · rintro ⟨⟨he, hr, hf, -⟩, he', hr', hf'⟩
      exact ⟨_, ⟨he, he'⟩, _, ⟨hr, hr'⟩, _, ⟨hf, hf'⟩, rfl, rfl, rfl⟩
  | array items =>
    rw [ofJson?, IsDocument]
    split
    · next hlong => simp [Nat.not_le.mpr hlong]
    · next hshort =>
      simp only [Option.bind_eq_bind, Option.pure_def, Option.bind_eq_some_iff, item?_eq_some_iff 0 "error",
        item?_eq_some_iff 1 "stats", item?_eq_some_iff 2 "filtered", Option.some.injEq, Account.mk.injEq]
      constructor
      · rintro ⟨_, he, _, hr, _, hf, rfl, rfl, rfl⟩
        exact ⟨Nat.le_of_not_lt hshort, he, hr, hf⟩
      · rintro ⟨-, he, hr, hf⟩
        exact ⟨_, he, _, hr, _, hf, rfl, rfl, rfl⟩
  | _ => simp [ofJson?, IsDocument]

theorem read?_eq_some_iff_tells {body : List UInt8} {account : Account} :
    read? body = some account ↔ Tells body account := by
  rw [read?]
  split
  · next hempty =>
    subst hempty
    constructor
    · intro h
      rw [← Option.some.inj h]
      exact .nothing
    · intro h
      cases h with
      | nothing => rfl
      | document hne => exact absurd rfl hne
  · next hne =>
    simp only [Option.bind_eq_bind, Option.bind_eq_some_iff, ofJson?_eq_some_iff]
    constructor
    · rintro ⟨text, htext, json, hjson, hdocument, herror, hreceived, hfiltered⟩
      exact .document hne htext hjson hdocument herror hreceived hfiltered
    · intro h
      cases h with
      | nothing => exact absurd rfl hne
      | document _ htext hjson hdocument herror hreceived hfiltered =>
        exact ⟨_, htext, _, hjson, hdocument, herror, hreceived, hfiltered⟩

end MetricRelay.Submission.Account
