/-
**The relay directory client** (`mrd-service`, `relay/client.rs`).

`access` answers from the cache while the cached access is fresh, and otherwise asks the backend as
`refresh` always does. An answer is verified against its context before it is cached; an outage of
the backend falls back on the cache, and every other failure withdraws what the context had cached.

A refresh is requested under one context and cached under another, the one of the next generation,
so one subject (session, policy revision, intended peer) may be cached under several contexts. A
failure only withdraws the context that was requested.

* `withdrawn_access_stays_withdrawn` — **a withdrawn subject is served nothing older**, exactly if
  none of its other contexts was cached when the backend withdrew it; and in every case what is
  served has not expired.
* `revoked_generation_served` — a refresh is unauthorized, and the generation before it is served.

The JSON library, SHA-256 and the signature scheme are parameters. An answer of the backend is what
`fetch` returns; the calls follow one another.
-/

import MiniRemoteDesktop.Lib.Execution
import MiniRemoteDesktop.Relay.Cache
import MiniRemoteDesktop.Relay.Signing

namespace MiniRemoteDesktop.Relay

open RelayAccessContext (forGeneration forRefresh withGeneration)
open Checked Execution

/-! ### The answer of the backend -/

def maxRelayAccessJsonBytes : Nat := maxRelayDirectoryJsonBytes + 64 * 1024
def maxCredentials : Nat := 8
def maxUrlsPerCredential : Nat := 4

structure RawRelayCredential where
  nodeId : String
  urls : List String
  (username credential : String)
  expiresAtUnixSeconds : Nat

/-- A parsed answer; the directory in it is a JSON value, written here as its bytes. -/
structure RawRelayAccessResponse where
  generation : Option Nat
  directoryId : String
  relayUrlDigest : Option String
  directory : List UInt8
  credentials : List RawRelayCredential

inductive RelayBackendError
  | unavailable
  | unauthorized
  | invalidResponse

/-- What the client is built from and calls: the trusted keys of its configuration, SHA-256, the
signature scheme and the two JSON readers. -/
structure RelayLibraries where
  trustedKeys : String → Option (List UInt8)
  sha256 : Sha256
  scheme : SignatureScheme
  response : List UInt8 → Option RawRelayAccessResponse
  directory : List UInt8 → Option SignedRelayDirectory

/-! ### Verification -/

def sha256Hex (value : Digest) : String := String.ofList (value.toList.flatMap hexByte)

def isControl (char : Char) : Bool :=
  char.toNat ≤ 0x1F || (0x7F ≤ char.toNat && char.toNat ≤ 0x9F)

/-- `validate_identifier`. -/
def validateNodeId (value : String) : Except RelayClientError Unit :=
  if Text.isIdentifier maxIdentifierBytes value then .ok () else .error .invalidContext

def turnUrl (endpoint : RelayDirectoryEndpoint) : Except RelayClientError String :=
  if endpoint.port = 0 ∨ (Text.bytes endpoint.host).isEmpty ∨ 253 < (Text.bytes endpoint.host).length ∨
      endpoint.host.toList.any isControl ∨
      endpoint.host.toList.any fun char => char ∈ ['@', '/', '?', '#', '\\'] then
    .error .credentialBinding
  else
    let host := if ':' ∈ endpoint.host.toList then "[" ++ endpoint.host ++ "]" else endpoint.host
    let (scheme, transport) :=
      match endpoint.transport with
      | .udp => ("turn", "udp")
      | .tcp => ("turn", "tcp")
      | .tls => ("turns", "tcp")
    .ok (scheme ++ ":" ++ host ++ ":" ++ toString endpoint.port ++ "?transport=" ++ transport)

/-- The bounds on one credential. -/
def RawRelayCredential.malformed (raw : RawRelayCredential) (nowMs : Nat) : Bool :=
  raw.urls.isEmpty || decide (maxUrlsPerCredential < raw.urls.length) ||
    (Text.bytes raw.username).isEmpty || decide (512 < (Text.bytes raw.username).length) ||
    raw.username.toList.any isControl ||
    (Text.bytes raw.credential).isEmpty || decide (512 < (Text.bytes raw.credential).length) ||
    raw.credential.toList.any isControl ||
    decide (raw.expiresAtUnixSeconds ≤ nowMs / 1000)

abbrev Credentials := Finmap fun _ : String => ServiceTurnRelayCredentials

/-- One round of the loop over the credentials. -/
def verifyCredential (candidates : List RelayDirectoryCandidate) (nowMs : Nat)
    (credentials : Credentials) (raw : RawRelayCredential) : Except RelayClientError Credentials := do
  validateNodeId raw.nodeId
  if raw.nodeId ∈ credentials ∨ raw.malformed nowMs then .error .credentialBinding
  let candidate ← (candidates.find? fun candidate => candidate.nodeId = raw.nodeId).elim
    (.error .credentialBinding) .ok
  if raw.urls.dedup.length ≠ raw.urls.length ∨
      raw.urls.dedup.length ≠ candidate.endpoints.length then .error .credentialBinding
  candidate.endpoints.forM fun endpoint => do
    let expected ← turnUrl endpoint
    if expected ∈ raw.urls then .ok () else .error .credentialBinding
  return credentials.insert raw.nodeId
    ⟨raw.urls, raw.username, raw.credential, raw.expiresAtUnixSeconds⟩

def verifyCredentials (candidates : List RelayDirectoryCandidate)
    (rawCredentials : List RawRelayCredential) (nowMs : Nat) : Except RelayClientError Credentials := do
  let credentials ← rawCredentials.foldlM (verifyCredential candidates nowMs) ∅
  let candidateIds := (candidates.map fun candidate => candidate.nodeId).toFinset
  if credentials.keys.card ≠ candidateIds.card ∨ ¬ credentials.keys ⊆ candidateIds then
    .error .credentialBinding
  return credentials

/-- The digest that an answer with a generation has to carry. -/
def verifyUrlDigest (sha256 : Sha256) (candidates : List RelayDirectoryCandidate)
    (credentials : Credentials) (expectedGeneration : Option Nat) (relayUrlDigest : Option String) :
    Except RelayClientError (Option Digest) :=
  match expectedGeneration, relayUrlDigest with
  | none, none => .ok none
  | some _, some expected =>
    match candidates.find? fun candidate => candidate.selectionReason = "preferred-region" with
    | none => .error .credentialBinding
    | some primary =>
      match credentials.lookup primary.nodeId with
      | none => .error .credentialBinding
      | some credential =>
        if expected ≠ sha256Hex (urlsDigest sha256 credential.urls) then .error .credentialBinding
        else .ok (some (urlsDigest sha256 credential.urls))
  | _, _ => .error .credentialBinding

/-- An error of the directory code, as the client reports it. -/
def fromDirectory {α : Type} (result : Except RelayDirectoryError α) : Except RelayClientError α :=
  result.mapError .directory

/-- The generation that the answer to a request must carry. -/
def RelayAccessContext.expectedGeneration (context : RelayAccessContext) : Option Nat :=
  match context.generation with
  | some generation => if context.isRefresh then checkedAdd generation 1 else some generation
  | none => none

def verifyRelayAccessResponse (libraries : RelayLibraries) (context : RelayAccessContext)
    (body : List UInt8) (nowMs : Nat) : Except RelayClientError VerifiedRelayAccess := do
  if maxRelayAccessJsonBytes < body.length then .error .invalidResponse
  let raw ← (libraries.response body).elim (.error .invalidResponse) .ok
  if raw.generation ≠ context.expectedGeneration then .error .credentialBinding
  if raw.credentials = [] ∨ maxCredentials < raw.credentials.length then .error .credentialBinding
  let signed ← fromDirectory
    (SignedRelayDirectory.fromJson libraries.scheme libraries.directory raw.directory)
  let directory ← fromDirectory (signed.verifyForContext libraries.scheme libraries.trustedKeys
    context.sessionId context.policyRevision context.peerDigest nowMs)
  if raw.directoryId ≠ directory.payload.directoryId then .error .credentialBinding
  let credentials ← verifyCredentials directory.payload.candidates raw.credentials nowMs
  let relayUrlDigest ← verifyUrlDigest libraries.sha256 directory.payload.candidates credentials
    context.expectedGeneration raw.relayUrlDigest
  return ⟨directory, credentials, raw.generation, relayUrlDigest⟩

/-! ### Nothing verified has expired -/

/-- No credential has expired. -/
def Credentials.Unexpired (credentials : Credentials) (nowMs : Nat) : Prop :=
  ∀ nodeId credential, credentials.lookup nodeId = some credential →
    nowMs < 1000 * credential.expiresAtUnixSeconds

/-- **Nothing in an access has expired.** -/
structure VerifiedRelayAccess.Unexpired (access : VerifiedRelayAccess) (nowMs : Nat) : Prop where
  directory : nowMs < access.directory.payload.expiresAtMs
  reservations : ∀ candidate ∈ access.candidates, nowMs < candidate.reservation.expiresAtMs
  credentials : Credentials.Unexpired access.credentials nowMs

theorem VerifiedRelayAccess.isFresh_iff (access : VerifiedRelayAccess) (nowMs : Nat) :
    access.isFresh nowMs = true ↔ access.Unexpired nowMs := by
  unfold isFresh
  rw [Bool.and_eq_true, Bool.and_eq_true, decide_eq_true_iff, decide_eq_true_iff, List.all_eq_true]
  constructor
  · rintro ⟨⟨directory, reservations⟩, credentials⟩
    refine ⟨directory, fun candidate member => of_decide_eq_true (reservations candidate member), ?_⟩
    intro nodeId credential known
    have listed : nodeId ∈ access.credentials.keys :=
      Finmap.mem_keys.mpr (Finmap.mem_of_lookup_eq_some known)
    have := credentials nodeId listed credential known
    omega
  · rintro ⟨directory, reservations, credentials⟩
    refine ⟨⟨directory, fun candidate member => decide_eq_true (reservations candidate member)⟩, ?_⟩
    intro nodeId _ credential known
    have := credentials nodeId credential known
    omega

variable {nowMs : Nat}

theorem verifyCredential_unexpired {candidates : List RelayDirectoryCandidate}
    {credentials next : Credentials} {raw : RawRelayCredential}
    (verified : verifyCredential candidates nowMs credentials raw = .ok next)
    (unexpired : credentials.Unexpired nowMs) : next.Unexpired nowMs := by
  obtain ⟨_, _, verified⟩ := bind_ok verified
  obtain ⟨wellFormed, verified⟩ := guarded_ok verified
  obtain ⟨_, _, verified⟩ := bind_ok verified
  obtain ⟨_, _, ⟨⟩⟩ := bind_ok (guard_ok verified)
  have later : nowMs / 1000 < raw.expiresAtUnixSeconds := by
    by_contra expired
    refine wellFormed (.inr ?_)
    simp [RawRelayCredential.malformed, decide_eq_true (Nat.not_lt.mp expired), Bool.or_true]
  intro nodeId credential known
  rw [Table.lookup_insert_eq] at known
  split at known
  · cases known
    show nowMs < 1000 * raw.expiresAtUnixSeconds
    omega
  · exact unexpired nodeId credential known

variable {context : RelayAccessContext}

/-- **An access that passes verification has not expired.** -/
theorem verifyRelayAccessResponse_fresh {libraries : RelayLibraries} {body : List UInt8}
    {access : VerifiedRelayAccess}
    (verified : verifyRelayAccessResponse libraries context body nowMs = .ok access) :
    access.Unexpired nowMs := by
  unfold verifyRelayAccessResponse at verified
  obtain ⟨raw, _, verified⟩ := bind_ok (guard_ok verified)
  obtain ⟨signed, _, verified⟩ := bind_ok (guard_ok (guard_ok verified))
  obtain ⟨directory, bound, verified⟩ := bind_ok verified
  obtain ⟨credentials, bounded, verified⟩ := bind_ok (guard_ok verified)
  obtain ⟨_, _, ⟨⟩⟩ := bind_ok verified
  obtain ⟨unexpired, reserved⟩ := verifyForContext_ok (ok_of_mapError bound)
  obtain ⟨all, folded, done⟩ := bind_ok bounded
  cases guard_ok done
  have empty : Credentials.Unexpired ∅ nowMs := nofun
  exact ⟨unexpired, reserved, foldlM_ok (I := fun held : Credentials => held.Unexpired nowMs) folded
    empty fun _ _ _ => verifyCredential_unexpired⟩

/-! ### The client -/

/-- The client. `answers` counts the answers of the backend so far (history). -/
structure RelayDirectoryClient where
  cache : RelayDirectoryCache
  answers : Nat

/-- **A call**: `access` or `refresh` of a context, with the values it may come to read: the clock
when it starts, the answer of the backend, and the clock after that answer. -/
structure RelayCall where
  refreshes : Bool
  context : RelayAccessContext
  startedAtMs : Nat
  answer : Except RelayBackendError (List UInt8)
  answeredAtMs : Nat

abbrev RelayResult := Except RelayClientError SharedAccess

namespace RelayDirectoryClient

def withBackend (cacheCapacity : Nat) : RelayDirectoryClient where
  cache := .new cacheCapacity
  answers := 0

/-- Drop what a context had cached. -/
def forget (client : RelayDirectoryClient) (context : RelayAccessContext) : RelayDirectoryClient :=
  { client with cache := client.cache.remove context }

end RelayDirectoryClient

/-- The context that a verified access is cached under. -/
def cacheContext (sha256 : Sha256) (context : RelayAccessContext) (access : VerifiedRelayAccess) :
    Except RelayClientError RelayAccessContext :=
  if context.isRefresh then
    match access.generation with
    | none => .error .invalidResponse
    | some generation =>
      forGeneration sha256 context.sessionId context.policyRevision context.intendedPeerId generation
  else .ok context

namespace RelayDirectoryClient

variable (libraries : RelayLibraries)

/-- An access that was verified. -/
def store (client : RelayDirectoryClient) (context : RelayAccessContext) (shared : SharedAccess) :
    RelayResult × RelayDirectoryClient :=
  match cacheContext libraries.sha256 context shared.access with
  | .error error => (.error error, client)
  | .ok cached => (.ok shared, { client with cache := (client.cache.remove context).insert cached shared })

/-- The cache when the backend cannot be reached. -/
def fallBack (client : RelayDirectoryClient) (context : RelayAccessContext) (nowMs : Nat) :
    RelayResult × RelayDirectoryClient :=
  ((client.cache.get context nowMs).1.elim (.error .backendUnavailable) .ok,
    { client with cache := (client.cache.get context nowMs).2 })

/-- What `refresh` does with the answer of the backend. -/
def answered (client : RelayDirectoryClient) (number : Nat) (context : RelayAccessContext)
    (nowMs : Nat) : Except RelayBackendError (List UInt8) → RelayResult × RelayDirectoryClient
  | .ok body =>
    match verifyRelayAccessResponse libraries context body nowMs with
    | .ok access => client.store libraries context ⟨number, access⟩
    | .error error => (.error error, client.forget context)
  | .error .unavailable => client.fallBack context nowMs
  | .error .unauthorized => (.error .unauthorized, client.forget context)
  | .error .invalidResponse => (.error .invalidResponse, client.forget context)

def refresh (client : RelayDirectoryClient) (call : RelayCall) : RelayResult × RelayDirectoryClient :=
  { client with answers := client.answers + 1 }.answered libraries client.answers call.context
    call.answeredAtMs call.answer

def access (client : RelayDirectoryClient) (call : RelayCall) : RelayResult × RelayDirectoryClient :=
  match client.cache.get call.context call.startedAtMs with
  | (some cached, cache) => (.ok cached, { client with cache := cache })
  | (none, cache) => { client with cache := cache }.refresh libraries call

def perform (client : RelayDirectoryClient) (call : RelayCall) : RelayResult × RelayDirectoryClient :=
  if call.refreshes then client.refresh libraries call else client.access libraries call

/-- A call, as a step of a run. -/
def step (client : RelayDirectoryClient) (call : RelayCall) : Option RelayDirectoryClient :=
  some (client.perform libraries call).2

/-! ### Withdrawal -/

/-- The call asks the backend. -/
def Asks (client : RelayDirectoryClient) (call : RelayCall) : Prop :=
  call.refreshes = true ∨ (client.cache.get call.context call.startedAtMs).1 = none

/-- The last clock value that the call reads. -/
def clockOf (client : RelayDirectoryClient) (call : RelayCall) : Nat :=
  if call.refreshes = false ∧ (client.cache.get call.context call.startedAtMs).1.isSome then
    call.startedAtMs
  else call.answeredAtMs

end RelayDirectoryClient

/-- **The backend withdraws the access**: it refuses, or its answer does not pass. -/
def RelayCall.Withdraws (libraries : RelayLibraries) (call : RelayCall) : Prop :=
  match call.answer with
  | .ok body => ∃ error,
    verifyRelayAccessResponse libraries call.context body call.answeredAtMs = .error error
  | .error error => error ≠ .unavailable

/-- **Whom a context is about**: its session, policy revision and intended peer. -/
def RelayAccessContext.subject (context : RelayAccessContext) : String × Nat × String :=
  (context.sessionId, context.policyRevision, context.intendedPeerId)

/-- No other context of the same subject is cached. -/
def RelayDirectoryCache.Alone (cache : RelayDirectoryCache) (context : RelayAccessContext) : Prop :=
  ∀ other, other.subject = context.subject → other ≠ context → cache.lookup other = none

open RelayDirectoryCache

/-- A verified access is cached for the subject it was requested for. -/
theorem cacheContext_subject {sha256 : Sha256} {cached : RelayAccessContext}
    {access : VerifiedRelayAccess} (chosen : cacheContext sha256 context access = .ok cached) :
    cached.subject = context.subject := by
  unfold cacheContext at chosen
  split at chosen
  · split at chosen
    · cases chosen
    · unfold forGeneration withGeneration at chosen
      obtain ⟨base, made, done⟩ := bind_ok (guard_ok chosen)
      unfold RelayAccessContext.new at made
      obtain ⟨_, _, ⟨⟩⟩ := bind_ok (guard_ok (guard_ok (guard_ok made)))
      cases done
      rfl
  · cases chosen
    rfl

/-! ### What one call does -/

namespace RelayDirectoryClient

variable (held : RelayDirectoryCache) (number : Nat) (context : RelayAccessContext) (nowMs : Nat) in
/-- **What a call does** to a cache that held `held` when `number` answers had come: it serves a
cached access of its context, or one that was just verified and is cached for the same subject, or it
fails. Nothing else enters the cache. -/
inductive Performed : RelayResult × RelayDirectoryClient → Prop
  | served (shared : SharedAccess) (next : RelayDirectoryClient)
      (known : held.lookup context = some shared) (fresh : shared.access.Unexpired nowMs)
      (within : next.cache.Within held) (count : number ≤ next.answers) :
      Performed (.ok shared, next)
  | verified (access : VerifiedRelayAccess) (next : RelayDirectoryClient)
      (fresh : access.Unexpired nowMs) (count : next.answers = number + 1)
      (found : ∀ other shared, next.cache.lookup other = some shared →
        (other.subject = context.subject ∧ shared = ⟨number, access⟩) ∨
          held.lookup other = some shared) :
      Performed (.ok ⟨number, access⟩, next)
  | refused (error : RelayClientError) (next : RelayDirectoryClient)
      (within : next.cache.Within held) (count : number ≤ next.answers) :
      Performed (.error error, next)

variable {number : Nat}

variable {outcome : RelayResult × RelayDirectoryClient}

theorem Performed.mono {cache held : RelayDirectoryCache}
    (performed : Performed cache number context nowMs outcome) (less : cache.Within held) :
    Performed held number context nowMs outcome := by
  cases performed with
  | served shared next known fresh within count =>
    exact .served shared next (less context shared known) fresh (within.trans less) count
  | verified access next fresh count found =>
    exact .verified access next fresh count fun other shared known =>
      (found other shared known).imp id (less other shared)
  | refused error next within count =>
    exact .refused error next (within.trans less) count

variable {libraries : RelayLibraries}

theorem store_performed (client : RelayDirectoryClient) (context : RelayAccessContext)
    {access : VerifiedRelayAccess} (counted : client.answers = number + 1)
    (fresh : access.Unexpired nowMs) : Performed client.cache number context nowMs
      (client.store libraries context ⟨number, access⟩) := by
  unfold store
  split
  · exact .refused _ _ (.refl _) (counted ▸ Nat.le_succ number)
  next cached chosen =>
    refine .verified access _ fresh counted fun other shared known => ?_
    rcases insert_lookup known with ⟨rfl, same⟩ | held
    · exact .inl ⟨cacheContext_subject chosen, same⟩
    · exact .inr (remove_within _ _ other shared held)

theorem fallBack_performed (client : RelayDirectoryClient) (context : RelayAccessContext)
    (counted : client.answers = number + 1) :
    Performed client.cache number context nowMs (client.fallBack context nowMs) := by
  unfold fallBack
  have count : number ≤ client.answers := counted ▸ Nat.le_succ number
  have got := client.cache.get_got context nowMs
  generalize client.cache.get context nowMs = read at got
  cases got with
  | hit shared known fresh =>
    exact .served shared _ known ((shared.access.isFresh_iff nowMs).mp fresh)
      (fun _ _ held => held) count
  | miss rest within others => exact .refused _ _ within count

theorem refresh_performed (client : RelayDirectoryClient) (call : RelayCall) :
    Performed client.cache client.answers call.context call.answeredAtMs
      (client.refresh libraries call) := by
  unfold refresh
  cases call.answer with
  | ok body =>
    rw [answered]
    split
    · exact store_performed { client with answers := client.answers + 1 } call.context rfl
        (verifyRelayAccessResponse_fresh ‹_›)
    · exact .refused _ _ (remove_within _ _) (Nat.le_succ _)
  | error error =>
    cases error with
    | unavailable => exact fallBack_performed { client with answers := client.answers + 1 } _ rfl
    | unauthorized | invalidResponse =>
      exact .refused _ _ (remove_within _ _) (Nat.le_succ _)

variable (libraries) in
/-- **One call**, whatever it is and whatever the backend answers. -/
theorem perform_performed (client : RelayDirectoryClient) (call : RelayCall) :
    Performed client.cache client.answers call.context (client.clockOf call)
      (client.perform libraries call) := by
  unfold perform
  split
  next refreshes =>
    rw [clockOf, if_neg fun hit => absurd (refreshes.symm.trans hit.1) (by decide)]
    exact client.refresh_performed call
  next reads =>
    unfold access clockOf
    generalize read : client.cache.get call.context call.startedAtMs = got
    cases (read ▸ client.cache.get_got call.context call.startedAtMs : client.cache.Got _ _ got) with
    | hit shared known fresh =>
      rw [if_pos ⟨Bool.eq_false_of_not_eq_true reads, rfl⟩]
      exact .served shared _ known ((shared.access.isFresh_iff _).mp fresh) (fun _ _ held => held) le_rfl
    | miss rest within others =>
      simpa using (refresh_performed { client with cache := rest } call).mono within

variable {client : RelayDirectoryClient}

/-- **A withdrawal** drops the context it was requested for, and no other. -/
theorem withdrawn_cache {call : RelayCall} (asks : client.Asks call)
    (withdraws : call.Withdraws libraries) :
    (client.perform libraries call).2.answers = client.answers + 1 ∧
      ∀ other, (client.perform libraries call).2.cache.lookup other =
        if other = call.context then none else client.cache.lookup other := by
  have refreshed : ∀ before : RelayDirectoryClient, (before.refresh libraries call).2 =
        ⟨before.cache.remove call.context, before.answers + 1⟩ := by
    intro before
    unfold refresh
    unfold RelayCall.Withdraws at withdraws
    cases answer : call.answer with
    | ok body =>
      rw [answer] at withdraws
      obtain ⟨error, fails⟩ := withdraws
      rw [answered, fails]
      rfl
    | error error =>
      rw [answer] at withdraws
      cases error with
      | unavailable => exact absurd rfl withdraws
      | unauthorized | invalidResponse => rfl
  unfold perform
  split
  · rw [refreshed]
    exact ⟨rfl, fun other => lookup_remove _ _ other⟩
  next reads =>
    unfold Asks at asks
    unfold access
    generalize read : client.cache.get call.context call.startedAtMs = got at asks
    cases (read ▸ client.cache.get_got call.context call.startedAtMs : client.cache.Got _ _ got) with
    | hit shared known fresh =>
      rcases asks with refreshes | missed
      · exact absurd refreshes reads
      · cases missed
    | miss rest within others =>
      rw [refreshed]
      refine ⟨rfl, fun other => ?_⟩
      rw [lookup_remove]
      by_cases same : other = call.context
      · simp [same]
      · simp [same, others other same]

theorem access_cached {shared : SharedAccess} {answeredAtMs : Nat}
    {answer : Except RelayBackendError (List UInt8)}
    (known : client.cache.lookup context = some shared) (fresh : shared.access.Unexpired nowMs) :
    (client.perform libraries ⟨false, context, nowMs, answer, answeredAtMs⟩).1 = .ok shared := by
  have hit := get_fresh known ((shared.access.isFresh_iff nowMs).mpr fresh)
  show (client.access libraries ⟨false, context, nowMs, answer, answeredAtMs⟩).1 = .ok shared
  unfold access
  generalize client.cache.get context nowMs = read at hit
  obtain ⟨found, cache⟩ := read
  cases hit
  rfl

/-! ### Runs -/

/-- What is cached came from an earlier answer, and was not expired then. -/
def Sound (client : RelayDirectoryClient) : Prop :=
  ∀ context shared, client.cache.lookup context = some shared →
    shared.answer < client.answers ∧ ∃ nowMs, shared.access.Unexpired nowMs

theorem perform_sound (sound : client.Sound) (call : RelayCall) :
    (client.perform libraries call).2.Sound := by
  have performed := perform_performed libraries client call
  generalize client.perform libraries call = outcome at performed
  intro context shared known
  cases performed with
  | served _ next _ _ within count | refused _ next within count =>
    obtain ⟨earlier, fresh⟩ := sound context shared (within context shared known)
    exact ⟨lt_of_lt_of_le earlier count, fresh⟩
  | verified access next fresh count found =>
    rcases found context shared known with ⟨_, rfl⟩ | held
    · exact ⟨count ▸ Nat.lt_succ_self _, _, fresh⟩
    · obtain ⟨earlier, fresh⟩ := sound context shared held
      exact ⟨count ▸ Nat.lt_succ_of_lt earlier, fresh⟩

theorem reach_sound {cacheCapacity : Nat}
    (reached : Reach (step libraries) always (withBackend cacheCapacity) client) : client.Sound := by
  refine reached.invariant (fun _ _ found => absurd found (Option.some_ne_none _).symm) ?_
  rintro before call after sound _ ⟨⟩
  exact perform_sound sound call

/-- **Everything cached for a subject is newer than an answer.** -/
structure Newer (number : Nat) (subject : String × Nat × String) (client : RelayDirectoryClient) :
    Prop where
  count : number < client.answers
  cached : ∀ context shared, context.subject = subject →
    client.cache.lookup context = some shared → number < shared.answer

/-- Every call keeps it, and what it serves for the subject is newer, too. -/
theorem perform_newer {subject : String × Nat × String} (newer : client.Newer number subject)
    (call : RelayCall) :
    (client.perform libraries call).2.Newer number subject ∧ (call.context.subject = subject → ∀ shared,
        (client.perform libraries call).1 = .ok shared → number < shared.answer) := by
  have performed := perform_performed libraries client call
  generalize client.perform libraries call = outcome at performed
  cases performed with
  | served shared next known _ within count =>
    refine ⟨⟨lt_of_lt_of_le newer.count count, fun context held about found =>
      newer.cached context held about (within context held found)⟩, fun about held same => ?_⟩
    rw [← Except.ok.inj same]
    exact newer.cached call.context shared about known
  | verified access next _ count found =>
    refine ⟨⟨count ▸ Nat.lt_succ_of_lt newer.count, fun context held about known => ?_⟩,
      fun _ held same => ?_⟩
    · rcases found context held known with ⟨_, rfl⟩ | before
      · exact newer.count
      · exact newer.cached context held about before
    · simp [← Except.ok.inj same, newer.count]
  | refused error next within count =>
    exact ⟨⟨lt_of_lt_of_le newer.count count, fun context held about found =>
      newer.cached context held about (within context held found)⟩, fun _ _ same => nomatch same⟩

theorem reach_newer {subject : String × Nat × String} {later : RelayDirectoryClient}
    (newer : client.Newer number subject) (reached : Reach (step libraries) always client later) :
    later.Newer number subject := by
  refine reached.invariant newer ?_
  rintro before call after newer _ ⟨⟩
  exact (perform_newer newer call).1

/-- **A withdrawn subject is served nothing older.** Whatever was called before: after the backend
withdrew the access of a context, no call ever serves its session, policy revision and intended peer
an access from before that answer, exactly if none of their other contexts was cached then. And no
call serves an access in which anything has expired. -/
theorem withdrawn_access_stays_withdrawn (libraries : RelayLibraries) (cacheCapacity : Nat)
    (client : RelayDirectoryClient) (call : RelayCall)
    (reached : Reach (step libraries) always (withBackend cacheCapacity) client) :
    (∀ shared, (client.perform libraries call).1 = .ok shared →
      shared.access.Unexpired (client.clockOf call)) ∧
    (client.Asks call → call.Withdraws libraries →
      ((∀ later, Reach (step libraries) always (client.perform libraries call).2 later →
        ∀ next : RelayCall, next.context.subject = call.context.subject →
          ∀ shared, (later.perform libraries next).1 = .ok shared →
            client.answers < shared.answer) ↔ client.cache.Alone call.context)) := by
  refine ⟨fun shared same => ?_, fun asks withdraws => ?_⟩
  · have performed := perform_performed libraries client call
    generalize client.perform libraries call = outcome at performed same
    cases performed with
    | served _ _ _ fresh | verified _ _ fresh => exact Except.ok.inj same ▸ fresh
    | refused => cases same
  obtain ⟨counted, left⟩ := withdrawn_cache asks withdraws
  constructor
  · intro withdrawn other about different
    -- Another context that is still cached is served by an `access` when it was verified.
    by_contra cached
    obtain ⟨shared, known⟩ := Option.ne_none_iff_exists'.mp cached
    obtain ⟨older, nowMs, fresh⟩ := reach_sound reached other shared known
    have kept := left other
    rw [if_neg different, known] at kept
    exact absurd (withdrawn _ .refl ⟨false, other, nowMs, .error .unavailable, nowMs⟩ about shared
      (access_cached kept fresh)) (Nat.not_lt_of_gt older)
  · intro alone later continued next about
    have newer : (client.perform libraries call).2.Newer client.answers call.context.subject := by
      refine ⟨counted ▸ Nat.lt_succ_self _, fun context shared about known => ?_⟩
      rw [left context] at known
      split at known
      · cases known
      · simp [alone context about ‹_›] at known
    exact (perform_newer (reach_newer newer continued) next).2 about

/-! ### An example -/

def sampleDigest : Digest := .ofFn fun _ => 0

def sampleDirectory : SignedRelayDirectory where
  payload := { samplePayload.1 with intendedPeerDigest := "peer-sha256-" ++ sha256Hex sampleDigest }
  signingKeyId := "key"
  signatureB64 := zeroSignatureB64

/-- The directory of the sample verifies. The body of an answer is its generation. -/
def sampleLibraries : RelayLibraries where
  trustedKeys _ := some (List.replicate 32 2)
  sha256 _ := sampleDigest
  scheme := schemeOf sampleDirectory.payload.signingBytes
  response body := body.head?.map fun generation =>
    { generation := some generation.toNat
      directoryId := "directory"
      relayUrlDigest := some (sha256Hex sampleDigest)
      directory := []
      credentials := [
        ⟨"relay", ["turn:relay.test:3478?transport=udp", "turn:relay.test:3478?transport=tcp"], "user",
          "secret", 90⟩,
        ⟨"near", ["turns:near.test:5349?transport=tcp", "turn:near.test:3478?transport=udp"], "user",
          "secret", 80⟩] }
  directory _ := some sampleDirectory

/-- The contexts of generation 0: the generation itself, or its refresh. -/
def sampleContext (refresh : Option Bool) : RelayAccessContext :=
  ⟨"session", 7, "peer", some 0, refresh, "peer-sha256-" ++ sha256Hex sampleDigest⟩

example : forGeneration sampleLibraries.sha256 "session" 7 "peer" 0 =
    .ok (sampleContext none) := by decide

example : forRefresh sampleLibraries.sha256 "session" 7 "peer" 0 =
    .ok (sampleContext (some true)) := by decide

/-- The answer number of what a call serves. -/
def servedAnswer (outcome : RelayResult × RelayDirectoryClient) : Option Nat :=
  outcome.1.toOption.map fun shared => shared.answer

theorem servedAnswer_ok (served : servedAnswer outcome = some number) :
    ∃ shared, outcome.1 = .ok shared ∧ shared.answer = number := by
  obtain ⟨result, next⟩ := outcome
  cases result with
  | error _ => cases served
  | ok shared => exact ⟨shared, rfl, Option.some.inj served⟩

/-- The access of generation 0 is verified. -/
def sampleAccess : RelayCall := ⟨false, sampleContext none, 20, .ok [0], 21⟩

/-- The client that has it cached. -/
def sampleClient : RelayDirectoryClient := ((withBackend 4).perform sampleLibraries sampleAccess).2

theorem sampleClient_reached : Reach (step sampleLibraries) always (withBackend 4) sampleClient := by
  have taken : step sampleLibraries (withBackend 4) sampleAccess = some sampleClient := rfl
  exact .single trivial taken

/-- Generation 0, or its refresh, is refused. -/
def sampleRefusal (refresh : Option Bool) : RelayCall :=
  ⟨true, sampleContext refresh, 30, .error .unauthorized, 31⟩

theorem sampleRefusal_withdraws (refresh : Option Bool) :
    (sampleRefusal refresh).Withdraws sampleLibraries := by
  rintro ⟨⟩

/-- Generation 0 is asked for again. -/
def sampleAgain : RelayCall := ⟨false, sampleContext none, 40, .error .unavailable, 41⟩

/-- **A withdrawn access is served**: the refresh of generation 0 is unauthorized, and the next
`access` of generation 0 serves the access from before. -/
theorem revoked_generation_served : ¬ ∀ (libraries : RelayLibraries) (cacheCapacity : Nat)
    (client later : RelayDirectoryClient) (call next : RelayCall) (shared : SharedAccess),
    Reach (step libraries) always (withBackend cacheCapacity) client →
    client.Asks call → call.Withdraws libraries →
    Reach (step libraries) always (client.perform libraries call).2 later →
    next.context.subject = call.context.subject →
    (later.perform libraries next).1 = .ok shared → client.answers < shared.answer := by
  intro claimed
  have served : servedAnswer ((sampleClient.perform sampleLibraries (sampleRefusal (some true))).2.perform
      sampleLibraries sampleAgain) = some 0 := by
    decide +kernel
  obtain ⟨shared, answered, older⟩ := servedAnswer_ok served
  have asks : sampleClient.Asks (sampleRefusal (some true)) := .inl rfl
  have newer := claimed sampleLibraries 4 sampleClient _ (sampleRefusal (some true)) sampleAgain shared
    sampleClient_reached asks (sampleRefusal_withdraws _) .refl rfl answered
  rw [older] at newer
  exact Nat.not_lt_zero _ newer

/-- The only cached context of the sample is refused, and nothing older is served again. -/
theorem withdrawn_access_stays_withdrawn_alone :
    sampleClient.Asks (sampleRefusal none) ∧ ∀ later, Reach (step sampleLibraries) always
        (sampleClient.perform sampleLibraries (sampleRefusal none)).2 later →
      ∀ next : RelayCall, next.context.subject = (sampleRefusal none).context.subject →
        ∀ shared, (later.perform sampleLibraries next).1 = .ok shared →
          sampleClient.answers < shared.answer := by
  have asks : sampleClient.Asks (sampleRefusal none) := .inl rfl
  have exact := withdrawn_access_stays_withdrawn sampleLibraries 4 sampleClient (sampleRefusal none)
    sampleClient_reached
  refine ⟨asks, (exact.2 asks (sampleRefusal_withdraws none)).mpr ?_⟩
  intro other _ different
  have only : sampleClient.cache.entries.keys = [sampleContext none] := by decide +kernel
  refine AList.lookup_eq_none.mpr fun member => different ?_
  have listed := AList.mem_keys.mp member
  rw [only] at listed
  exact List.mem_singleton.mp listed

end RelayDirectoryClient

end MiniRemoteDesktop.Relay
