/-
**What a verified relay access response says** (`mrd-service`, `relay/client.rs`).

The credentials of a response are compared with the candidates of the signed directory by the sizes of
sets and by membership one way; that the other way follows rests on the URLs being different for
different endpoints.

* `Exact`, `verified_response_exact` — **the credentials of a verified response cover the signed
  candidates exactly, and its generation is the one that was asked for**.
* `last_generation_verified` — a refresh of the last generation passes verification; only the client
  refuses it, when it comes to cache the access.
-/

import MiniRemoteDesktop.Relay.ServerBinding

namespace MiniRemoteDesktop.Relay

open RelayAccessContext (expectedGeneration forGeneration forRefresh withGeneration)
open Checked
open RelayDirectoryClient (sampleContext sampleLibraries)
open Server (Accepted authority entryOf)

/-! ### URLs -/

/-- What stands around the authority of a URL. -/
def urlFrame : RelayDirectoryTransport → List Char × List Char
  | .udp => ("turn:".toList, "?transport=udp".toList)
  | .tcp => ("turn:".toList, "?transport=tcp".toList)
  | .tls => ("turns:".toList, "?transport=tcp".toList)

variable {endpoint first second : RelayDirectoryEndpoint} {url : String}

theorem turnUrl_text (formed : turnUrl endpoint = .ok url) :
    url.toList = (urlFrame endpoint.transport).1 ++ ((authority endpoint.host.toList ++
      ':' :: Nat.toDigits 10 endpoint.port) ++ (urlFrame endpoint.transport).2) := by
  have formed := Except.ok.inj (refused_ok formed).2
  rw [← formed]
  by_cases colon : ':' ∈ endpoint.host.toList <;> cases endpoint.transport <;>
    simp [authority, colon, urlFrame]

theorem authority_port {host other : List Char} {port number : Nat}
    (same : authority host ++ ':' :: Nat.toDigits 10 port = authority other ++ ':' :: Nat.toDigits 10 number) :
    host = other ∧ port = number := by
  have free : ∀ value, ∀ char ∈ (Nat.toDigits 10 value).reverse, (char != ':') = true := by
    intro value char digit
    have digit := Nat.isDigit_of_mem_toDigits (by decide) (by decide) (List.mem_reverse.mp digit)
    rw [bne_iff_ne]
    rintro rfl
    exact absurd digit (by decide)
  have back := congrArg List.reverse same
  simp only [List.reverse_append, List.reverse_cons, List.append_assoc, List.singleton_append] at back
  have ports := congrArg (List.takeWhile (· != ':')) back
  rw [List.takeWhile_append_of_pos (free _), List.takeWhile_append_of_pos (free _)] at ports
  have ports : Nat.toDigits 10 port = Nat.toDigits 10 number := by simpa using ports
  rw [ports] at same
  refine ⟨?_, Text.toString_injective ?_⟩
  · have hosts := List.append_cancel_right same
    unfold authority at hosts
    split at hosts <;> split at hosts
    · simpa using hosts
    next colon plain =>
      exact absurd (hosts ▸ .tail _ (List.mem_append_left _ colon)) plain
    next plain colon =>
      exact absurd (hosts ▸ .tail _ (List.mem_append_left _ colon)) plain
    · exact hosts
  · simp [← String.toList_inj, ports]

/-- **An endpoint is read back from its URL.** -/
theorem turnUrl_injective (one : turnUrl first = .ok url) (two : turnUrl second = .ok url) :
    first = second := by
  have same := (turnUrl_text one).symm.trans (turnUrl_text two)
  obtain ⟨transport, host, port⟩ := first
  obtain ⟨other, host', port'⟩ := second
  have transports : transport = other := by
    have ends := congrArg (fun text => (text.reverse.take 3, text[4]?)) same
    revert ends
    cases transport <;> cases other <;> simp [urlFrame]
  subst transports
  obtain ⟨hosts, ports⟩ := authority_port (List.append_cancel_right (List.append_cancel_left same))
  exact congrArg₂ _ (String.toList_inj.mp hosts) ports

/-! ### Credentials -/

variable {candidates : List RelayDirectoryCandidate} {nowMs : Nat}

variable {credentials next : Credentials} {raw : RawRelayCredential} {raws : List RawRelayCredential}

theorem verifyCredential_ok (verified : verifyCredential candidates nowMs credentials raw = .ok next) :
    raw.nodeId ∉ credentials ∧ next = credentials.insert raw.nodeId (entryOf raw) ∧
      ∃ candidate ∈ candidates, Accepted nowMs candidate raw := by
  unfold verifyCredential validateNodeId at verified
  obtain ⟨_, identifier, verified⟩ := bind_ok verified
  obtain ⟨wellFormed, verified⟩ := guarded_ok verified
  obtain ⟨candidate, found, verified⟩ := bind_ok verified
  obtain ⟨counts, verified⟩ := guarded_ok verified
  obtain ⟨_, bound, done⟩ := bind_ok verified
  rw [not_or] at wellFormed
  simp only [not_or, not_not] at counts
  have found := required_ok found
  have distinct : raw.urls.Nodup := List.dedup_eq_self.mp
    ((List.dedup_sublist raw.urls).eq_of_length counts.1)
  refine ⟨wellFormed.1, (Except.ok.inj done).symm, candidate, List.mem_of_find?_eq_some found,
    by simpa [eq_comm] using List.find?_some found, ?_, by simpa using wellFormed.2, distinct,
    counts.1.symm.trans counts.2, fun endpoint member => ?_⟩
  · split at identifier
    · assumption
    · cases identifier
  · obtain ⟨url, formed, listed⟩ := bind_ok (forM_eq_ok.mp bound endpoint member)
    refine ⟨url, ?_, formed⟩
    split at listed
    · assumption
    · cases listed

/-- **The loop over the credentials**: each is accepted for its candidate, and no node comes twice. -/
theorem loop_ok (folded : raws.foldlM (verifyCredential candidates nowMs) credentials = .ok next) :
    (raws.map RawRelayCredential.nodeId).Nodup ∧
      (∀ raw ∈ raws, next.lookup raw.nodeId = some (entryOf raw) ∧
        ∃ candidate ∈ candidates, Accepted nowMs candidate raw) ∧
      (∀ nodeId ∈ credentials, nodeId ∉ raws.map RawRelayCredential.nodeId ∧
        next.lookup nodeId = credentials.lookup nodeId) ∧
      ∀ nodeId ∈ next, nodeId ∈ credentials ∨ nodeId ∈ raws.map RawRelayCredential.nodeId := by
  induction raws generalizing credentials with
  | nil =>
    cases folded
    exact ⟨List.nodup_nil, nofun, fun _ _ => ⟨nofun, rfl⟩, fun _ => .inl⟩
  | cons raw rest ih =>
    obtain ⟨middle, first, later⟩ := bind_ok folded
    obtain ⟨fresh, rfl, accepted⟩ := verifyCredential_ok first
    obtain ⟨distinct, each, kept, only⟩ := ih later
    have own := kept raw.nodeId (Finmap.mem_insert.mpr (.inl rfl))
    refine ⟨List.nodup_cons.mpr ⟨own.1, distinct⟩, fun other member => ?_, fun nodeId held => ?_, ?_⟩
    · rcases List.mem_cons.mp member with rfl | member
      · exact ⟨own.2.trans (Finmap.lookup_insert _), accepted⟩
      · exact each other member
    · have different : nodeId ≠ raw.nodeId := fun same => fresh (same ▸ held)
      obtain ⟨absent, same⟩ := kept nodeId (Finmap.mem_insert.mpr (.inr held))
      rw [Finmap.lookup_insert_of_ne _ different] at same
      exact ⟨fun listed => (List.mem_cons.mp listed).elim different absent, same⟩
    · intro nodeId listed
      rcases only nodeId listed with held | later
      · rcases Finmap.mem_insert.mp held with rfl | held
        · exact .inr (.head _)
        · exact .inl held
      · exact .inr (.tail _ later)

/-- URLs that are as many as the endpoints and name each of them are those of the endpoints. -/
theorem Server.Accepted.exact {candidate : RelayDirectoryCandidate} (accepted : Accepted nowMs candidate raw)
    (distinct : candidate.endpoints.Nodup) :
    url ∈ raw.urls ↔ ∃ endpoint ∈ candidate.endpoints, turnUrl endpoint = .ok url := by
  choose! urlOf listed formed using accepted.bound
  have nodup : (candidate.endpoints.map urlOf).Nodup := distinct.map_on fun first member second other same =>
    turnUrl_injective (formed first member) (same ▸ formed second other)
  have perm : (candidate.endpoints.map urlOf).Perm raw.urls := by
    refine (nodup.subperm fun url member => ?_).perm_of_length_le (by simp [accepted.count])
    obtain ⟨endpoint, own, rfl⟩ := List.mem_map.mp member
    exact listed endpoint own
  rw [← perm.mem_iff, List.mem_map]
  refine exists_congr fun endpoint => and_congr_right fun member => ?_
  simp [formed endpoint member]

/-- **The digest does not depend on the order of the URLs.** -/
theorem urlsDigest_perm {urls others : List String} (sha256 : Sha256) (perm : urls.Perm others) :
    urlsDigest sha256 urls = urlsDigest sha256 others := by
  have sorted (texts : List String) :
      (texts.mergeSort fun left right => decide (left ≤ right)).Pairwise (· ≤ ·) := by
    simpa using @List.pairwise_mergeSort _ (fun left right : String => decide (left ≤ right))
      (by simpa using fun a b c => le_trans) (by simpa using le_total) texts
  unfold urlsDigest
  rw [((List.mergeSort_perm urls _).trans (perm.trans (List.mergeSort_perm others _).symm)).eq_of_pairwise'
    (sorted urls) (sorted others)]

/-! ### Responses -/

/-- **What is sure of a response that passed verification.** -/
structure Exact (libraries : RelayLibraries) (context : RelayAccessContext) (nowMs : Nat)
    (raw : RawRelayAccessResponse) (access : VerifiedRelayAccess) : Prop where
  directory : ∃ signed : SignedRelayDirectory, signed.verifyForContext libraries.scheme
    libraries.trustedKeys context.sessionId context.policyRevision context.peerDigest nowMs =
      .ok access.directory
  distinct : (raw.credentials.map RawRelayCredential.nodeId).Nodup
  covered : ∀ nodeId, nodeId ∈ raw.credentials.map RawRelayCredential.nodeId ↔
    nodeId ∈ access.candidates.map RelayDirectoryCandidate.nodeId
  urls : ∀ credential ∈ raw.credentials, credential.urls.Nodup ∧
    ∀ candidate ∈ access.candidates, candidate.nodeId = credential.nodeId →
      ∀ url, url ∈ credential.urls ↔ ∃ endpoint ∈ candidate.endpoints, turnUrl endpoint = .ok url
  outlives : ∀ credential ∈ raw.credentials, nowMs < 1000 * credential.expiresAtUnixSeconds
  returned : ∀ credential ∈ raw.credentials,
    access.credentialsFor credential.nodeId = some (entryOf credential)
  generation : raw.generation = access.generation ∧
    (context.generation = none → access.generation = none) ∧
    ∀ generation, context.generation = some generation →
      (context.isRefresh = false → access.generation = some generation) ∧
      (context.isRefresh = true → generation < u64Max → access.generation = some (generation + 1)) ∧
      (context.isRefresh = true → i64Max ≤ generation →
        ∃ error, cacheContext libraries.sha256 context access = .error error)
  digest : ∀ generation, context.generation = some generation →
    (context.isRefresh = true → generation < u64Max) →
      ∃ primary ∈ access.candidates, primary.selectionReason = "preferred-region" ∧
        ∃ credential ∈ raw.credentials, credential.nodeId = primary.nodeId ∧
          ∀ urls, urls.Perm credential.urls →
            access.relayUrlDigest = some (urlsDigest libraries.sha256 urls)

variable {libraries : RelayLibraries} {context : RelayAccessContext} {body : List UInt8}

variable {access : VerifiedRelayAccess}

/-- **A verified response covers the signed candidates exactly**, and its generation is the one that
was asked for. -/
theorem verified_response_exact
    (verified : verifyRelayAccessResponse libraries context body nowMs = .ok access) :
    ∃ raw, libraries.response body = some raw ∧ Exact libraries context nowMs raw access := by
  have fresh := (verifyRelayAccessResponse_fresh verified).credentials
  unfold verifyRelayAccessResponse at verified
  obtain ⟨raw, parsed, verified⟩ := bind_ok (guard_ok verified)
  obtain ⟨numbered, verified⟩ := guarded_ok verified
  obtain ⟨signed, _, verified⟩ := bind_ok (guard_ok verified)
  obtain ⟨directory, bound, verified⟩ := bind_ok verified
  obtain ⟨credentials, checked, verified⟩ := bind_ok (guard_ok verified)
  obtain ⟨digest, digested, ⟨⟩⟩ := bind_ok verified
  obtain ⟨_, folded, checked⟩ := bind_ok checked
  obtain ⟨counts, ⟨⟩⟩ := guarded_ok checked
  simp only [not_or, not_not] at counts numbered
  obtain ⟨distinct, each, _, only⟩ := loop_ok folded
  have keys : credentials.keys = _ := Finset.eq_of_subset_of_card_le counts.2 (le_of_eq counts.1.symm)
  have named (nodeId : String) : nodeId ∈ credentials ↔
      nodeId ∈ directory.payload.candidates.map RelayDirectoryCandidate.nodeId := by
    simp [← Finmap.mem_keys, keys]
  have listed {nodeId : String} (known : nodeId ∈ credentials) :
      nodeId ∈ raw.credentials.map RawRelayCredential.nodeId :=
    (only nodeId known).resolve_left (Finmap.notMem_empty)
  refine ⟨raw, required_ok parsed, ⟨signed, ok_of_mapError bound⟩, distinct, fun nodeId => ?_,
    fun credential member => ?_, fun credential member => fresh _ _ (each credential member).1,
    fun credential member => (each credential member).1, ⟨rfl, ?_⟩, ?_⟩
  · refine Iff.trans ⟨fun member => ?_, listed⟩ (named nodeId)
    obtain ⟨credential, own, rfl⟩ := List.mem_map.mp member
    exact Finmap.mem_of_lookup_eq_some (each credential own).1
  · obtain ⟨_, own, known, accepted⟩ := each credential member
    refine ⟨accepted.distinct, fun candidate signed same url => ?_⟩
    obtain ⟨_, _, _, _, _, _, _, _, _, canonical, _⟩ := validateContract_eq_ok.mp directory.contract
    have ordered := (canonical candidate signed).ordered
    cases directory.nodeId_injective signed known (same.trans accepted.nodeId)
    refine accepted.exact (ordered.imp ?_)
    rintro first _ before rfl
    exact Ranking.Before.irrefl first before
  · rw [numbered]
    refine ⟨fun none => by rw [expectedGeneration, none], fun generation asked => ?_⟩
    rw [expectedGeneration, asked]
    refine ⟨fun kept => by simp [kept], fun refresh below => ?_, fun refresh last => ?_⟩
    · simp [refresh, checkedAdd, Nat.succ_le_of_lt below]
    · unfold cacheContext
      simp only [refresh, if_true, checkedAdd]
      split
      · exact ⟨_, rfl⟩
      next next successor =>
        cases (Option.ite_none_right_eq_some.mp successor).2
        unfold forGeneration withGeneration
        rw [if_pos (by omega)]
        exact ⟨_, rfl⟩
  · intro generation asked below
    have expected : ∃ number, context.expectedGeneration = some number := by
      rw [expectedGeneration, asked]
      cases refresh : context.isRefresh with
      | false => exact ⟨_, rfl⟩
      | true => exact ⟨_, if_pos (Nat.succ_le_of_lt (below refresh))⟩
    obtain ⟨number, expected⟩ := expected
    rw [expected] at digested
    unfold verifyUrlDigest at digested
    split at digested
    next impossible _ =>
      cases impossible
    · split at digested
      · cases digested
      rename_i primary found
      split at digested
      · cases digested
      rename_i delivered held
      have digested := Except.ok.inj (refused_ok digested).2
      obtain ⟨credential, member, same⟩ := List.mem_map.mp (listed (Finmap.mem_of_lookup_eq_some held))
      cases (same ▸ (each credential member).1).symm.trans held
      refine ⟨primary, List.mem_of_find?_eq_some found, by simpa using List.find?_some found, credential,
        member, same, fun urls perm => ?_⟩
      rw [← digested, urlsDigest_perm _ perm]
      rfl
    · cases digested

theorem verified_response_exact_sample : ∃ access raw, sampleLibraries.response [0] = some raw ∧
    Exact sampleLibraries (sampleContext none) 21 raw access := by
  have passes : (verifyRelayAccessResponse sampleLibraries (sampleContext none) [0] 21).toOption.isSome =
    true := by decide +kernel
  obtain ⟨access, there⟩ := Option.isSome_iff_exists.mp passes
  exact ⟨access, verified_response_exact (ok_of_toOption there)⟩

/-! ### The last generation -/

/-- A backend that answers with a generation of its choice, or with none. -/
def numberedLibraries (generation : Option Nat) : RelayLibraries :=
  { sampleLibraries with
    response body := (sampleLibraries.response body).map fun raw => { raw with
      generation := generation
      relayUrlDigest := generation.bind fun _ => raw.relayUrlDigest } }

/-- No refresh of a generation is verified. -/
def RefreshRefused (last : Nat) : Prop :=
  ∀ (libraries : RelayLibraries) (context : RelayAccessContext) (body : List UInt8) (nowMs : Nat)
    (access : VerifiedRelayAccess),
    verifyRelayAccessResponse libraries context body nowMs = .ok access → context.isRefresh = true →
      context.generation ≠ some last

/-- **A refresh of the last generation is verified**: of the last that a context can have, with the
number that follows it, and of the last machine number, with none. -/
theorem last_generation_verified : ¬ RefreshRefused i64Max ∧ ¬ RefreshRefused u64Max := by
  have passes : ∀ last ∈ [i64Max, u64Max], (verifyRelayAccessResponse
      (numberedLibraries (checkedAdd last 1)) { sampleContext (some true) with
        generation := some last } [0] 21).toOption.isSome = true := by decide +kernel
  have verified : ∀ last ∈ [i64Max, u64Max], ¬ RefreshRefused last := by
    intro last listed refused
    obtain ⟨access, there⟩ := Option.isSome_iff_exists.mp (passes last listed)
    exact refused _ _ _ _ access (ok_of_toOption there) rfl rfl
  exact ⟨verified _ (.head _), verified _ (.tail _ (.head _))⟩

example : forRefresh (numberedLibraries none).sha256 "session" 7 "peer" i64Max =
    .ok { sampleContext (some true) with generation := some i64Max } := by
  decide

end MiniRemoteDesktop.Relay
