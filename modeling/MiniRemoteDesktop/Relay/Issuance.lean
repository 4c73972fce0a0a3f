/-
**The accesses that the server issues, at the client** (`app/services/relay_directory.py` beside
`mrd-service`, `relay/client.rs`).

* `SettledEndpoints` — no heartbeat has changed the endpoints of a reserved node between the selection and
  the locks, and none of them is an address in brackets.
* `issued_access_usable` — an access of `issue_access` is usable **if and only if** the endpoints were
  settled; an access over the WAN always is.
-/

import MiniRemoteDesktop.Relay.Admission
import MiniRemoteDesktop.Relay.ServerBinding

namespace MiniRemoteDesktop.Relay.Server

open Checked Ranking

/-! ### Usable accesses -/

/-- **What the client demands of an access.** -/
structure Usable (sha256 : Sha256) (result : RelayAccessResult) : Prop where
  bound : ∀ candidate ∈ result.directory.payload.candidates, ∃ credential,
    result.credentials.filter (fun credential => credential.nodeId = candidate.nodeId) = [credential] ∧
      Bound candidate credential.urls
  digest : ∀ generation, result.generation = some generation → ∃ primary formed,
    result.directory.payload.candidates.find?
        (fun candidate => candidate.selectionReason = "preferred-region") = some primary ∧
      primary.endpoints.mapM turnUrl = .ok formed ∧
      result.relayUrlDigest = some (sha256Hex (urlsDigest sha256 formed))
  accepted : ∀ nowMs, (∀ credential ∈ result.credentials,
      nowMs / 1000 < credential.expiresAtUnixSeconds) → ∃ credentials digest,
    verifyCredentials result.directory.payload.candidates
        (result.credentials.map NodeTurnCredential.raw) nowMs = .ok credentials ∧
      verifyUrlDigest sha256 result.directory.payload.candidates credentials result.generation
        result.relayUrlDigest = .ok digest

/-- **A credential that serves its candidate.** -/
structure Serves (candidate : RelayDirectoryCandidate) (credential : NodeTurnCredential) : Prop where
  issued : Issued candidate.nodeId credential.urls credential
  identifier : validGeneralId candidate.nodeId = true
  bound : Bound candidate credential.urls
  distinct : credential.urls.Nodup
  count : credential.urls.length = candidate.endpoints.length

theorem Serves.accepted {candidate : RelayDirectoryCandidate} {credential : NodeTurnCredential}
    {nowMs : Nat} (serves : Serves candidate credential)
    (fresh : nowMs / 1000 < credential.expiresAtUnixSeconds) :
    Accepted nowMs candidate credential.raw := by
  obtain ⟨formed, ran, same⟩ := serves.bound
  refine accepted_of_issued serves.issued serves.identifier serves.distinct serves.count
    (fun endpoint member => ?_) fresh
  obtain ⟨url, listed, client⟩ := mem_results_of_mem ran member
  exact ⟨url, (same url).mpr listed, client⟩

variable {candidates : List RelayDirectoryCandidate} {credentials : List NodeTurnCredential}

/-- Every candidate has the one credential that serves it. -/
theorem filter_serves (distinct : (candidates.map (·.nodeId)).Nodup)
    (each : List.Forall₂ Serves candidates credentials) : ∀ candidate ∈ candidates, ∃ credential,
      credentials.filter (fun credential => credential.nodeId = candidate.nodeId) = [credential] ∧
        Serves candidate credential := by
  induction each with
  | nil => exact List.forall_mem_nil _
  | cons serves others ih =>
    rename_i first credential rest more
    rw [List.map_cons, List.nodup_cons] at distinct
    have foreign : ∀ candidate ∈ rest, ¬ credential.nodeId = candidate.nodeId := by
      intro candidate member same
      refine distinct.1 (List.mem_map.mpr ⟨candidate, member, ?_⟩)
      rw [← same, serves.issued.node]
    intro candidate member
    rcases List.mem_cons.mp member with rfl | later
    · refine ⟨credential, ?_, serves⟩
      rw [List.filter_cons, if_pos (decide_eq_true serves.issued.node), List.cons_eq_cons]
      refine ⟨rfl, List.filter_eq_nil_iff.mpr fun other listed => ?_⟩
      rw [decide_eq_true_eq]
      intro same
      obtain ⟨served, inside, pair⟩ := exists_left others listed
      exact distinct.1 (List.mem_map.mpr ⟨served, inside, by rw [← pair.issued.node, same]⟩)
    · obtain ⟨found, alone, pair⟩ := ih distinct.2 candidate later
      refine ⟨found, ?_, pair⟩
      rw [List.filter_cons, if_neg (by rw [decide_eq_true_eq]; exact foreign candidate later)]
      exact alone

/-- An access of which every candidate is served by its credential. -/
theorem accepted_of_serves (distinct : (candidates.map (·.nodeId)).Nodup)
    (each : List.Forall₂ Serves candidates credentials) {nowMs : Nat}
    (fresh : ∀ credential ∈ credentials, nowMs / 1000 < credential.expiresAtUnixSeconds) :
    ∃ verified, verifyCredentials candidates (credentials.map NodeTurnCredential.raw) nowMs = .ok verified ∧
      List.Forall₂ (fun candidate raw => verified.lookup candidate.nodeId = some (entryOf raw)) candidates
        (credentials.map NodeTurnCredential.raw) := by
  refine verifyCredentials_accepted distinct (List.forall₂_map_right_iff.mpr ?_)
  have both : List.Forall₂ (fun candidate credential => credential ∈ credentials ∧
      Serves candidate credential) candidates credentials := by
    clear distinct fresh
    induction each with
    | nil => exact .nil
    | cons serves _ ih =>
      exact .cons ⟨(.head _), serves⟩ (ih.imp fun _ _ pair => ⟨.tail _ pair.1, pair.2⟩)
  exact both.imp fun _ credential pair => pair.2.accepted (fresh credential pair.1)

/-! ### Signed directories -/

variable {payload : RelayDirectoryPayload}

theorem nodup_of_signPayload {signer : DirectorySigner} {directory : SignedRelayDirectory}
    (signed : signer.signPayload payload = .ok directory) :
    directory.payload = payload ∧ (payload.candidates.map (·.nodeId)).Nodup := by
  obtain ⟨bytes, encoded, ⟨⟩⟩ := bind_ok signed
  unfold canonicalDirectoryBytes at encoded
  have encoded := guard_ok (guard_ok (guard_ok (guard_ok encoded)))
  obtain ⟨canonical, _⟩ := guarded_ok encoded
  rw [not_or, not_not, not_not] at canonical
  have distinct := countDistinct_eq.mp canonical.2
  refine ⟨rfl, List.Nodup.of_map Text.bytes ?_⟩
  rw [List.map_map]
  exact distinct

/-! ### Stored tables -/

/-- **Tables as they are stored**: nodes under their keys, with endpoints that were validated. -/
structure Tables.Stored (tables : Tables) : Prop where
  keys : (tables.nodes.map (·.nodeId)).Nodup
  endpoints : ∀ node ∈ tables.nodes, ∃ given, validateEndpoints given = some node.endpoints

variable {tables : Tables}

theorem Tables.Stored.compatible (stored : tables.Stored) {node : RelayNode}
    (member : node ∈ tables.nodes) (policy : SelectionPolicy) :
    (∀ endpoint ∈ compatibleEndpoints policy node.endpoints, StoredEndpoint endpoint) ∧
      (compatibleEndpoints policy node.endpoints).Nodup := by
  obtain ⟨given, known⟩ := stored.endpoints node member
  obtain ⟨each, distinct, _, _⟩ := stored_of_validateEndpoints known
  exact ⟨fun endpoint listed => each endpoint (List.mem_filter.mp listed).1, distinct.filter _⟩

variable {policy : SelectionPolicy}

theorem readable_of_compatible {endpoints : List String} {url : String}
    (member : url ∈ compatibleEndpoints policy endpoints) : endpointTransport url ≠ none := by
  intro unread
  have accepted := (List.mem_filter.mp member).2
  simp [unread] at accepted

theorem mem_of_record {nodeId : String} {record : RelayNode × RelayNodeRegistration}
    (found : tables.records.find? (fun record => record.1.nodeId = nodeId) = some record) :
    record.1 ∈ tables.nodes ∧ record.1.nodeId = nodeId := by
  refine ⟨?_, by simpa using List.find?_some found⟩
  obtain ⟨node, listed, inside⟩ := List.mem_flatMap.mp (List.mem_of_find?_eq_some found)
  obtain ⟨_, _, rfl⟩ := List.mem_map.mp inside
  exact listed

theorem Tables.Stored.eq (stored : tables.Stored) {first second : RelayNode}
    (one : first ∈ tables.nodes) (two : second ∈ tables.nodes) (same : first.nodeId = second.nodeId) :
    first = second :=
  List.inj_on_of_nodup_map stored.keys one two same

/-! ### `issue_access` -/

/-- **The endpoints were settled**: the nodes that were reserved have the same endpoints in both reads,
and none of them is an address in brackets. -/
def SettledEndpoints (service : RelayAccessService) (call : AccessCall) : Prop :=
  ∀ admitted, admitAccess service call = .ok admitted → ∀ reservation ∈ admitted.reservations,
    ∀ before ∈ call.snapshot.nodes, ∀ after ∈ call.locked.nodes,
      before.nodeId = reservation.nodeId → after.nodeId = reservation.nodeId →
      (∀ endpoint, endpoint ∈ compatibleEndpoints admitted.policy before.endpoints ↔
        endpoint ∈ compatibleEndpoints admitted.policy after.endpoints) ∧
      ∀ endpoint ∈ compatibleEndpoints admitted.policy before.endpoints, named endpoint = true

/-- What selection and admission are known to come to. -/
structure Selected (call : AccessCall) (admitted : Admitted) : Prop where
  identifiers : ∀ item ∈ admitted.candidates, validGeneralId item.nodeId = true
  candidates : ∀ item ∈ admitted.candidates, ∃ before ∈ call.snapshot.nodes,
    before.nodeId = item.nodeId ∧ item.endpoints = compatibleEndpoints admitted.policy before.endpoints

theorem selectAccess_ok {call : AccessCall} {items : List RelaySelectedNode}
    (selected : selectAccess call policy = .ok items) :
    ∀ item ∈ items, ∃ before ∈ call.snapshot.nodes,
      before.nodeId = item.nodeId ∧ item.endpoints = compatibleEndpoints policy before.endpoints := by
  obtain ⟨decision, chosen, ⟨⟩⟩ := bind_ok selected
  have chosen := required_ok chosen
  unfold selectRelayNodes at chosen
  rw [Option.ite_none_left_eq_some] at chosen
  obtain ⟨_, ⟨⟩⟩ := chosen
  intro item member
  have listed := mem_sortBy.mp (List.mem_of_mem_take member)
  obtain ⟨view, inside, rfl⟩ := List.mem_map.mp listed
  obtain ⟨record, there, rfl⟩ := List.mem_map.mp (List.mem_filter.mp inside).1
  obtain ⟨node, known, inRow⟩ := List.mem_flatMap.mp there
  obtain ⟨registration, _, rfl⟩ := List.mem_map.mp inRow
  exact ⟨node, known, rfl, rfl⟩

theorem admitAccess_ok {service : RelayAccessService} {call : AccessCall} {admitted : Admitted}
    (done : admitAccess service call = .ok admitted) : Selected call admitted := by
  unfold admitAccess at done
  obtain ⟨policy, _, done⟩ := bind_ok (guard_ok done)
  obtain ⟨items, selected, done⟩ := bind_ok done
  obtain ⟨deadline, _, done⟩ := bind_ok (guard_ok done)
  obtain ⟨requester, _, done⟩ := bind_ok done
  obtain ⟨⟨writes, taken⟩, reserved, done⟩ := bind_ok done
  obtain ⟨⟨kept, expiry⟩, _, done⟩ := bind_ok (guard_ok done)
  cases guard_ok done
  obtain ⟨checked, _⟩ := reserveCapacity_ok (fromRepository_ok reserved)
  refine ⟨fun item member => ?_, selectAccess_ok selected⟩
  exact (check_spec checked).2.2 item.nodeId (List.mem_map_of_mem member)

variable {service : RelayAccessService} {call : AccessCall} {admitted : Admitted}
  {reservation : RelayReservation} {candidate : RelayDirectoryCandidate} {credential : NodeTurnCredential}

theorem accessCandidate_ok (selected : Selected call admitted)
    (done : accessCandidate call admitted reservation = .ok candidate) :
    candidate.nodeId = reservation.nodeId ∧ validGeneralId candidate.nodeId = true ∧
      ∃ before ∈ call.snapshot.nodes, before.nodeId = reservation.nodeId ∧
        sortedParts (compatibleEndpoints admitted.policy before.endpoints) = .ok candidate.endpoints := by
  obtain ⟨⟨node, _⟩, _, done⟩ := bind_ok done
  obtain ⟨⟨_, registration⟩, _, done⟩ := bind_ok done
  obtain ⟨item, found, done⟩ := bind_ok done
  obtain ⟨endpoints, sorted, ⟨⟩⟩ := bind_ok done
  have found := required_ok found
  have listed := List.mem_of_find?_eq_some found
  have on : item.nodeId = reservation.nodeId := by simpa using List.find?_some found
  obtain ⟨before, known, same, read⟩ := selected.candidates item listed
  have valid := selected.identifiers item listed
  rw [on] at valid
  refine ⟨rfl, valid, before, known, same.trans on, ?_⟩
  rw [← read]
  exact sorted

theorem sortedUrls_perm (urls : List String) : (sortedUrls urls).Perm urls := sortBy_perm _ _

theorem accessCredential_ok (representable : ∀ expiry ∈ call.grant.grantExpiresAt, expiry < datetimeEnd)
    (done : accessCredential service call admitted candidate = .ok credential) :
    ∃ after ∈ call.locked.nodes, after.nodeId = candidate.nodeId ∧
      credential.urls.Perm (compatibleEndpoints admitted.policy after.endpoints) ∧
      Issued candidate.nodeId credential.urls credential := by
  obtain ⟨⟨node, registration⟩, found, done⟩ := bind_ok done
  obtain ⟨deadlines, due, done⟩ := bind_ok done
  obtain ⟨grantExpiresAt, granted, due⟩ := bind_ok due
  obtain ⟨policyExpiresAt, _, due⟩ := bind_ok due
  obtain ⟨deadline, _, ⟨⟩⟩ := bind_ok due
  have early := representable grantExpiresAt (required_ok granted)
  have soon : unixSeconds grantExpiresAt < 253402300800 := by
    unfold datetimeEnd fromTimestamp at early
    unfold unixSeconds
    omega
  obtain ⟨known, on⟩ := mem_of_record (required_ok found)
  have issued := issued_of_issue (required_ok done) soon
  have same := issued.same
  refine ⟨node, known, on, same ▸ sortedUrls_perm _, ?_⟩
  rw [same, ← on]
  exact issued

theorem accessPayload_ok (done : accessPayload service call admitted = .ok payload) :
    (∀ candidate ∈ payload.candidates, ∃ reservation ∈ admitted.reservations,
      accessCandidate call admitted reservation = .ok candidate) ∧
      ∀ reservation ∈ admitted.reservations, ∃ candidate ∈ payload.candidates,
        accessCandidate call admitted reservation = .ok candidate := by
  obtain ⟨_, _, done⟩ := bind_ok done
  obtain ⟨_, _, done⟩ := bind_ok done
  obtain ⟨candidates, each, ⟨⟩⟩ := bind_ok done
  refine ⟨fun candidate member => ?_, fun reservation member => ?_⟩
  · obtain ⟨reservation, listed, made⟩ := mem_of_mapM each member
    exact ⟨reservation, mem_sortBy.mp listed, made⟩
  · exact mem_results_of_mem each (mem_sortBy.mpr member)

/-- **The parts of an access.** -/
structure AccessParts (service : RelayAccessService) (call : AccessCall) (result : RelayAccessResult)
    (admitted : Admitted) : Prop where
  admission : admitAccess service call = .ok admitted
  selected : Selected call admitted
  distinct : (result.directory.payload.candidates.map (·.nodeId)).Nodup
  candidates : ∀ candidate ∈ result.directory.payload.candidates, ∃ reservation ∈ admitted.reservations,
    accessCandidate call admitted reservation = .ok candidate
  reservations : ∀ reservation ∈ admitted.reservations, ∃ candidate ∈ result.directory.payload.candidates,
    accessCandidate call admitted reservation = .ok candidate
  credentials : result.directory.payload.candidates.mapM (accessCredential service call admitted) =
    .ok result.credentials
  plain : result.generation = none ∧ result.relayUrlDigest = none

variable {result : RelayAccessResult}

theorem issueAccess_parts (issued : issueAccess service call = .ok result) :
    ∃ admitted, AccessParts service call result admitted := by
  obtain ⟨admitted, admission, issued⟩ := bind_ok issued
  obtain ⟨payload, paid, issued⟩ := bind_ok issued
  obtain ⟨directory, signed, issued⟩ := bind_ok issued
  obtain ⟨credentials, each, ⟨⟩⟩ := bind_ok issued
  obtain ⟨rfl, distinct⟩ := nodup_of_signPayload (ok_of_mapError signed)
  obtain ⟨candidates, reservations⟩ := accessPayload_ok paid
  exact ⟨admitted, admission, admitAccess_ok admission, distinct, candidates, reservations, each, rfl, rfl⟩

/-- The credential of one candidate is bound to it just if the endpoints of its node were settled. -/
theorem bound_iff_settled {before after : RelayNode} (snapshot : call.snapshot.Stored)
    (known : before ∈ call.snapshot.nodes)
    (sorted : sortedParts (compatibleEndpoints admitted.policy before.endpoints) = .ok candidate.endpoints)
    (perm : credential.urls.Perm (compatibleEndpoints admitted.policy after.endpoints)) :
    Bound candidate credential.urls ↔
      (∀ endpoint, endpoint ∈ compatibleEndpoints admitted.policy before.endpoints ↔
        endpoint ∈ compatibleEndpoints admitted.policy after.endpoints) ∧
      ∀ endpoint ∈ compatibleEndpoints admitted.policy before.endpoints, named endpoint = true := by
  rw [bound_iff (snapshot.compatible known admitted.policy).1
    (fun url member => readable_of_compatible (perm.mem_iff.mp member)) sorted]
  simp only [perm.mem_iff]

/-- **An access is usable just if the endpoints were settled.** -/
theorem issueAccess_usable_iff (issued : issueAccess service call = .ok result)
    (snapshot : call.snapshot.Stored) (locked : call.locked.Stored)
    (representable : ∀ expiry ∈ call.grant.grantExpiresAt, expiry < datetimeEnd) :
    Usable service.sha256 result ↔ SettledEndpoints service call := by
  obtain ⟨admitted, parts⟩ := issueAccess_parts issued
  constructor
  · intro usable other admission reservation member before known after there onBefore onAfter
    cases parts.admission.symm.trans admission
    obtain ⟨candidate, listed, made⟩ := parts.reservations reservation member
    obtain ⟨on, _, first, inside, same, sorted⟩ := accessCandidate_ok parts.selected made
    cases snapshot.eq inside known (same.trans onBefore.symm)
    obtain ⟨credential, alone, bound⟩ := usable.bound candidate listed
    have filtered : credential ∈ result.credentials.filter fun credential =>
        credential.nodeId = candidate.nodeId := by
      simp [alone]
    have named : credential.nodeId = candidate.nodeId := by simpa using (List.mem_filter.mp filtered).2
    obtain ⟨served, _, done⟩ := mem_of_mapM parts.credentials (List.mem_filter.mp filtered).1
    obtain ⟨last, row, keyed, perm, issue⟩ := accessCredential_ok representable done
    have foreign : last.nodeId = after.nodeId := by
      rw [keyed, ← issue.node, named, on, onAfter]
    cases locked.eq row there foreign
    exact (bound_iff_settled snapshot known sorted perm).mp bound
  · intro settled
    have serves : List.Forall₂ Serves result.directory.payload.candidates result.credentials := by
      have each := (List.forall₂_and_left _ _).mpr ⟨parts.candidates, mapM_eq_ok.mp parts.credentials⟩
      refine each.imp fun candidate credential both => ?_
      obtain ⟨⟨reservation, member, made⟩, done⟩ := both
      obtain ⟨on, identifier, before, known, onBefore, sorted⟩ := accessCandidate_ok parts.selected made
      obtain ⟨after, there, onAfter, perm, issue⟩ := accessCredential_ok representable done
      have both := settled admitted parts.admission reservation member before known after there onBefore
        (onAfter.trans on)
      have distinct := perm.nodup_iff.mpr (locked.compatible there admitted.policy).2
      refine ⟨issue, identifier, (bound_iff_settled snapshot known sorted perm).mpr both, distinct, ?_⟩
      have same : credential.urls.Perm (compatibleEndpoints admitted.policy before.endpoints) := by
        refine (List.perm_ext_iff_of_nodup distinct (snapshot.compatible known admitted.policy).2).mpr ?_
        intro url
        rw [perm.mem_iff, both.1]
      rw [same.length_eq, (sortedParts_ok sorted).1]
    obtain ⟨noGeneration, noDigest⟩ := parts.plain
    refine ⟨fun candidate member => ?_, fun generation present => ?_, fun nowMs fresh => ?_⟩
    · obtain ⟨credential, alone, pair⟩ := filter_serves parts.distinct serves candidate member
      exact ⟨credential, alone, pair.bound⟩
    · cases noGeneration.symm.trans present
    · obtain ⟨verified, done, _⟩ := accepted_of_serves parts.distinct serves fresh
      refine ⟨verified, none, done, ?_⟩
      rw [noGeneration, noDigest]
      rfl

/-! ### Access over the WAN -/

/-- The URLs of the server, from the signed endpoints. -/
def signedUrls (candidate : RelayDirectoryCandidate) : List String :=
  candidate.endpoints.map canonicalEndpointUrl

/-- **A candidate that both sides form the same URLs of.** -/
structure Agreed (candidate : RelayDirectoryCandidate) : Prop where
  identifier : validGeneralId candidate.nodeId = true
  client : candidate.endpoints.mapM turnUrl = .ok (signedUrls candidate)
  distinct : (signedUrls candidate).Nodup

/-- The endpoints of a stored row, stripped of their brackets. -/
theorem stripped_urls {urls : List String} {endpoints : List RelayDirectoryEndpoint}
    (stored : ∀ url ∈ urls, StoredEndpoint url) (sorted : sortedParts urls = .ok endpoints) :
    (endpoints.map fun endpoint => canonicalEndpointUrl
        { endpoint with host := signedEndpointHost endpoint.host }).Perm urls ∧
      ∀ endpoint ∈ endpoints, turnUrl { endpoint with host := signedEndpointHost endpoint.host } =
        .ok (canonicalEndpointUrl { endpoint with host := signedEndpointHost endpoint.host }) := by
  have sources := (sortedParts_ok sorted).2.1
  obtain ⟨parts, ran, ⟨⟩⟩ := bind_ok sorted
  constructor
  · refine ((sortBy_perm _ _).map _).trans ?_
    rw [List.map_map]
    have each := mapM_eq_ok.mp ran
    clear ran sources sorted
    induction each with
    | nil => exact .refl _
    | cons read _ ih =>
      rename_i url found rest more _
      obtain ⟨other, known, form⟩ := formed_of_stored (stored url (.head _))
      cases (required_ok read).symm.trans known
      rw [List.map_cons]
      show (canonicalEndpointUrl (strippedOut found) :: _).Perm _
      rw [form.stripped]
      exact (ih fun url member => stored url (.tail _ member)).cons url
  · intro endpoint member
    obtain ⟨url, listed, found, read, rfl⟩ := sources endpoint member
    obtain ⟨other, known, form⟩ := formed_of_stored (stored url listed)
    cases read.symm.trans known
    exact form.client.trans (congrArg Except.ok form.stripped.symm)

variable {grant granted : SessionRequest} {target : TargetDevice} {creation : CreationCall}
  {persisted : RelayAccessGeneration} {generation : Nat} {table : List RelayReservation}

/-- The reservations that are kept are among those that were taken, but for their expiry. -/
theorem cohereReservations_kept {deadline expiry : Nat}
    {reservations existing kept : List RelayReservation}
    (done : cohereReservations tables deadline reservations existing = .ok (kept, expiry)) :
    ∀ row ∈ kept, ∃ taken ∈ reservations, row = { taken with expiresAt := row.expiresAt } := by
  unfold cohereReservations at done
  split at done
  · obtain ⟨deadlines, _, ⟨⟩⟩ := bind_ok done
    intro row member
    obtain ⟨taken, listed, rfl⟩ := List.mem_map.mp member
    exact ⟨taken, listed, rfl⟩
  · obtain ⟨deadlines, _, done⟩ := bind_ok (guard_ok done)
    obtain ⟨each, ran, ⟨⟩⟩ := bind_ok (guard_ok done)
    intro row member
    obtain ⟨taken, listed, made⟩ := mem_of_mapM ran (List.reduceOption_mem_iff.mp member)
    refine ⟨taken, listed, ?_⟩
    unfold cohereWith at made
    split at made
    · cases made
      rfl
    · split at made
      · cases made
      · obtain ⟨_, _, made⟩ := bind_ok made
        split at made
        · cases made
        · cases made
          rfl

theorem admitWan_named {admitted : WanAdmitted} (done : admitWan service grant creation = .ok admitted) :
    ∀ reservation ∈ admitted.reservations, validGeneralId reservation.nodeId = true := by
  obtain ⟨policy, _, done⟩ := bind_ok done
  obtain ⟨egress, _, done⟩ := bind_ok done
  obtain ⟨items, _, done⟩ := bind_ok done
  obtain ⟨deadline, _, done⟩ := bind_ok done
  obtain ⟨subject, _, done⟩ := bind_ok (guard_ok done)
  obtain ⟨⟨writes, taken⟩, reserved, done⟩ := bind_ok done
  obtain ⟨⟨kept, expiry⟩, cohered, done⟩ := bind_ok (guard_ok done)
  cases guard_ok done
  have reserved := fromRepository_ok reserved
  intro reservation member
  obtain ⟨source, listed, same⟩ := cohereReservations_kept cohered reservation member
  have on : source.nodeId = reservation.nodeId := by rw [same]
  have named := reserveCapacity_named reserved source listed
  rw [on] at named
  exact (check_spec (reserveCapacity_ok reserved).1).2.2 _ named

theorem wanCandidate_agreed {admitted : WanAdmitted} (stored : creation.locked.Stored)
    (identifier : validGeneralId reservation.nodeId = true)
    (done : wanCandidate creation admitted reservation = .ok candidate) : Agreed candidate := by
  obtain ⟨⟨node, registration⟩, found, done⟩ := bind_ok done
  obtain ⟨endpoints, sorted, ⟨⟩⟩ := bind_ok (guard_ok done)
  obtain ⟨known, on⟩ := mem_of_record (required_ok found)
  obtain ⟨each, distinct⟩ := stored.compatible known admitted.policy
  obtain ⟨perm, client⟩ := stripped_urls each sorted
  have same : signedUrls (candidateOut node (endpoints.map fun endpoint =>
      { endpoint with host := signedEndpointHost endpoint.host }) (compatibleEndpoints admitted.policy
        node.endpoints) (node.view registration) (isFirst admitted.reservations reservation) reservation) =
      endpoints.map fun endpoint =>
        canonicalEndpointUrl { endpoint with host := signedEndpointHost endpoint.host } := List.map_map
  refine ⟨identifier, ?_, same ▸ perm.nodup_iff.mpr distinct⟩
  refine mapM_ok fun endpoint member => ?_
  obtain ⟨raw, listed, rfl⟩ := List.mem_map.mp member
  exact client raw listed

/-- **The directory of a generation**: its candidates are agreed on, and it lists a node once. -/
structure AgreedDirectory (directory : SignedRelayDirectory) : Prop where
  distinct : (directory.payload.candidates.map (·.nodeId)).Nodup
  candidates : ∀ candidate ∈ directory.payload.candidates, Agreed candidate

/-- **What a creation stores is agreed on.** -/
theorem createWanGeneration_agreed (stored : creation.locked.Stored)
    (created : createWanGeneration service grant target generation creation =
      .ok (granted, persisted, table)) : AgreedDirectory persisted.signedDirectory := by
  unfold createWanGeneration at created
  obtain ⟨⟨built, reservations⟩, building, ⟨⟩⟩ := bind_ok (guard_ok created)
  obtain ⟨admitted, admission, building⟩ := bind_ok building
  obtain ⟨payload, paid, building⟩ := bind_ok building
  obtain ⟨directory, signed, building⟩ := bind_ok building
  obtain ⟨primary, _, ⟨⟩⟩ := bind_ok building
  obtain ⟨rfl, distinct⟩ := nodup_of_signPayload (ok_of_mapError signed)
  refine ⟨distinct, fun candidate member => ?_⟩
  obtain ⟨candidates, each, paid⟩ := bind_ok paid
  obtain ⟨_, _, paid⟩ := bind_ok paid
  have listed : candidate ∈ candidates := by
    have same : candidates = directory.payload.candidates :=
      congrArg RelayDirectoryPayload.candidates (Except.ok.inj paid)
    simp [same, member]
  obtain ⟨reservation, held, made⟩ := mem_of_mapM each listed
  exact wanCandidate_agreed stored (admitWan_named admission reservation (mem_sortBy.mp held)) made

/-- A credential over the WAN has the URLs of its candidate. -/
theorem wanCredential_ok {fetch : FetchCall}
    (representable : ∀ expiry ∈ grant.grantExpiresAt, expiry < datetimeEnd)
    (done : wanCredential service grant fetch persisted policy candidate = .ok credential) :
    Issued candidate.nodeId (signedUrls candidate) credential := by
  obtain ⟨⟨node, registration⟩, found, done⟩ := bind_ok done
  obtain ⟨_, _, done⟩ := bind_ok done
  obtain ⟨_, _, done⟩ := bind_ok done
  obtain ⟨_, _, done⟩ := bind_ok done
  obtain ⟨grantExpiresAt, granted, done⟩ := bind_ok (guard_ok done)
  obtain ⟨_, _, done⟩ := bind_ok done
  have early := representable grantExpiresAt (required_ok granted)
  have soon : unixSeconds grantExpiresAt < 253402300800 := by
    unfold datetimeEnd fromTimestamp at early
    unfold unixSeconds
    omega
  have on := (mem_of_record (required_ok found)).2
  rw [← on]
  exact issued_of_issue (required_ok done) soon

theorem Agreed.serves (agreed : Agreed candidate)
    (issued : Issued candidate.nodeId (signedUrls candidate) credential) : Serves candidate credential := by
  have same := issued.same
  refine ⟨same ▸ issued, agreed.identifier, ⟨_, agreed.client, fun url => by rw [same]⟩, ?_, ?_⟩
  · simp [same, agreed.distinct]
  · simp [same, signedUrls]

/-- The candidate that is called preferred is the one that the digest is of. -/
theorem preferred_unique (distinct : (candidates.map (·.nodeId)).Nodup) {nodeId : String}
    (alone : (candidates.filter fun candidate =>
      candidate.selectionReason = "preferred-region").map (·.nodeId) = [nodeId])
    {primary : RelayDirectoryCandidate}
    (found : candidates.find? (fun candidate => candidate.nodeId = nodeId) = some primary) :
    candidates.find? (fun candidate => candidate.selectionReason = "preferred-region") = some primary := by
  obtain ⟨preferred, rest, filtered, named, _⟩ := List.map_eq_cons_iff.mp alone
  have first : candidates.find? (fun candidate => candidate.selectionReason = "preferred-region") =
      some preferred := by
    simp [← List.head?_filter, filtered]
  have listed := List.mem_of_find?_eq_some first
  have on : primary.nodeId = nodeId := by simpa using List.find?_some found
  have same := List.inj_on_of_nodup_map distinct listed (List.mem_of_find?_eq_some found)
    (named.trans on.symm)
  rw [first, same]

/-- **A fetched access is usable**, if what was stored is agreed on. -/
theorem fetchWanAccess_usable {fetch : FetchCall} (agreed : AgreedDirectory persisted.signedDirectory)
    (representable : ∀ expiry ∈ grant.grantExpiresAt, expiry < datetimeEnd)
    (fetched : fetchWanAccess service grant target (some persisted) fetch = .ok result) :
    Usable service.sha256 result := by
  obtain ⟨_, _, fetched⟩ := bind_ok fetched
  obtain ⟨stored, ⟨⟩, fetched⟩ := bind_ok fetched
  obtain ⟨directory, valid, fetched⟩ := bind_ok fetched
  obtain ⟨credentials, issued, ⟨⟩⟩ := bind_ok fetched
  obtain ⟨rfl, alone⟩ := validatePersisted_ok valid
  obtain ⟨_, _, issued⟩ := bind_ok issued
  obtain ⟨policy, _, issued⟩ := bind_ok issued
  obtain ⟨all, each, issued⟩ := bind_ok issued
  split at issued
  · cases issued
  rename_i primary found
  obtain ⟨digest, ⟨⟩⟩ := refused_ok issued
  have digest := not_not.mp digest
  have preferred := preferred_unique agreed.distinct alone found
  have listed := List.mem_of_find?_eq_some preferred
  have issue := (List.forall₂_and_left _ _).mpr ⟨agreed.candidates, mapM_eq_ok.mp each⟩
  have serves : List.Forall₂ (fun candidate credential => Serves candidate credential ∧
      credential.urls = signedUrls candidate) persisted.signedDirectory.payload.candidates credentials :=
    issue.imp fun candidate credential both =>
      have issued := wanCredential_ok representable both.2
      ⟨both.1.serves issued, issued.same⟩
  have served := serves.imp fun _ _ pair => pair.1
  refine ⟨fun candidate member => ?_, fun generation _ => ?_, fun nowMs fresh => ?_⟩
  · obtain ⟨credential, only, pair⟩ := filter_serves agreed.distinct served candidate member
    exact ⟨credential, only, pair.bound⟩
  · exact ⟨primary, _, preferred, (agreed.candidates primary listed).client, congrArg some digest.symm⟩
  · obtain ⟨verified, done, looked⟩ := accepted_of_serves agreed.distinct served fresh
    refine ⟨verified, some (urlsDigest service.sha256 (signedUrls primary)), done, ?_⟩
    have both := List.Forall₂.mp (S := fun candidate credential => verified.lookup candidate.nodeId =
      some (entryOf credential.raw) ∧ credential.urls = signedUrls candidate)
      (fun _ _ known pair => ⟨known, pair.2⟩) (List.forall₂_map_right_iff.mp looked) serves
    obtain ⟨credential, _, known, same⟩ := exists_right both listed
    unfold verifyUrlDigest
    rw [preferred]
    dsimp only
    rw [known]
    show (if persisted.relayUrlDigest ≠ sha256Hex (urlsDigest service.sha256 credential.urls) then _
      else Except.ok (some (urlsDigest service.sha256 credential.urls))) = _
    rw [same]
    exact if_neg (not_not.mpr digest.symm)

/-- **The accesses that the server issues are usable**: those of `issue_access` just if no heartbeat has
changed the endpoints that it reserved and none of them is an address in brackets, and those over the WAN
in every case. -/
theorem issued_access_usable (service : RelayAccessService) :
    (∀ call result, call.snapshot.Stored → call.locked.Stored →
      (∀ expiry ∈ call.grant.grantExpiresAt, expiry < datetimeEnd) →
      issueAccess service call = .ok result →
      (Usable service.sha256 result ↔ SettledEndpoints service call)) ∧
    ∀ grant target generation creation granted persisted table, creation.locked.Stored →
      createWanGeneration service grant target generation creation = .ok (granted, persisted, table) →
      ∀ later device fetch result, (∀ expiry ∈ later.grantExpiresAt, expiry < datetimeEnd) →
        fetchWanAccess service later device (some persisted) fetch = .ok result →
        Usable service.sha256 result :=
  ⟨fun _ _ snapshot locked representable issued =>
      issueAccess_usable_iff issued snapshot locked representable,
    fun _ _ _ _ _ _ _ stored created _ _ _ _ representable fetched =>
      fetchWanAccess_usable (createWanGeneration_agreed stored created) representable fetched⟩

/-! ### Samples -/

def sampleService : RelayAccessService where
  maxReservations := 8
  signer := ⟨"key-1", fun _ => "signature"⟩
  credentialIssuer :=
    { ttlSeconds := 600
      password := fun _ _ _ => some ⟨"secret", by decide, by decide, by decide⟩ }
  directoryTtlSeconds := 30
  sha256 := fun _ => Vector.replicate 32 0

/-- A grant to relay over UDP in one region, until second 1000. -/
def sampleGrant : SessionRequest where
  id := "session-1"
  requesterUserId := some "user-1"
  requesterDeviceId := none
  targetDeviceId := "device-2"
  intendedPeerId := some "device-2"
  temporaryPassword := false
  status := .approved
  grantExpiresAt := some (fromTimestamp 1000)
  policyRevision := some 1
  policyExpiresAt := some (fromTimestamp 1000)
  relayAllowedRegions := some ["eu"]
  relayPreferredRegions := some ["eu"]
  relayAcceptedTransports := some [.udp]
  relayMaxBackups := 0
  approvedScopes := some []
  approvedProfile := none
  activeRelayGeneration := none

/-- The tables with one node, whose endpoint is given. -/
def sampleTables (endpoint : String) : Tables where
  nodes := [
    { nodeId := "relay-1"
      region := "eu"
      failureDomain := "domain-1"
      physicalHostId := some "host-1"
      state := .available
      endpoints := [endpoint]
      encryptedTurnSecret := [1]
      maxAllocations := 10
      activeAllocations := 0
      maxEgressBps := 1000
      currentEgressBps := 0
      measuredRttMs := none
      recentFailureBps := 0
      leaseExpiresAt := some (fromTimestamp 1000)
      revokedAt := none }]
  registrations := [
    { nodeId := "relay-1"
      failureDomain := "domain-1"
      physicalHostId := some "host-1"
      topologyApprovedAt := some 0
      status := .approved
      certificateExpiresAt := some (fromTimestamp 1000)
      encryptedTurnSecret := some [1] }]
  reservations := []

/-- A call at second 100, with the endpoint of the node in both reads. -/
def sampleCall (before after : String) : AccessCall where
  authorized := true
  grant := sampleGrant
  currentUserId := "user-1"
  now := fromTimestamp 100
  directoryId := "directory-1"
  newIds := fun _ => "reservation-1"
  snapshot := sampleTables before
  locked := sampleTables after
  issuedAt := fun _ => 100

/-- The client refuses an access from the start. -/
def refused (result : RelayAccessResult) : Bool :=
  (result.credentials.all fun credential => 0 < credential.expiresAtUnixSeconds) &&
    !(verifyCredentials result.directory.payload.candidates
      (result.credentials.map NodeTurnCredential.raw) 0).isOk

theorem not_usable_of_refused {sha256 : Sha256} (refusal : refused result = true) :
    ¬ Usable sha256 result := by
  intro usable
  obtain ⟨unexpired, fails⟩ := Bool.and_eq_true _ _ ▸ refusal
  obtain ⟨verified, _, done, _⟩ := usable.accepted 0 fun credential member => by
    simpa using List.all_eq_true.mp unexpired credential member
  rw [done] at fails
  cases fails

theorem sampleTables_stored {endpoint : String} (canonical : validateEndpoints [endpoint] = some [endpoint]) :
    (sampleTables endpoint).Stored := by
  refine ⟨List.nodup_singleton _, fun node member => ⟨[endpoint], ?_⟩⟩
  cases List.mem_singleton.mp member
  exact canonical

/-- A session over the WAN, before it is approved. -/
def sampleWanGrant : SessionRequest :=
  { sampleGrant with requesterDeviceId := some "device-1", status := .requested }

def sampleTarget : TargetDevice := ⟨"device-2", "public-2"⟩

def sampleCreation : CreationCall where
  now := fromTimestamp 100
  directoryId := "directory-1"
  newIds := fun _ => "reservation-1"
  snapshot := sampleTables "turn:[::1]:3478?transport=udp"
  locked := sampleTables "turn:[::1]:3478?transport=udp"

def sampleFetch (reservations : List RelayReservation) : FetchCall where
  authorized := true
  callerDeviceId := "public-2"
  policyRevision := 1
  generation := 0
  now := fromTimestamp 101
  issuedAt := fun _ => 101
  tables := { sampleTables "turn:[::1]:3478?transport=udp" with reservations }

theorem sampleGrant_representable : ∀ expiry ∈ sampleGrant.grantExpiresAt, expiry < datetimeEnd := by
  rintro expiry ⟨⟩
  decide

/-- An access of each kind. -/
theorem issued_access_usable_sample :
    (∃ result, issueAccess sampleService (sampleCall "turn:a.example:3478?transport=udp"
        "turn:a.example:3478?transport=udp") = .ok result ∧
      (Usable sampleService.sha256 result ↔ SettledEndpoints sampleService (sampleCall
        "turn:a.example:3478?transport=udp" "turn:a.example:3478?transport=udp"))) ∧
    ∃ created result, createWanGeneration sampleService sampleWanGrant sampleTarget 0 sampleCreation =
        .ok created ∧
      fetchWanAccess sampleService created.1 sampleTarget (some created.2.1) (sampleFetch created.2.2) =
        .ok result ∧ Usable sampleService.sha256 result := by
  have plain : (issueAccess sampleService (sampleCall "turn:a.example:3478?transport=udp"
      "turn:a.example:3478?transport=udp")).toOption.isSome = true := by decide +kernel
  have fetched : ((createWanGeneration sampleService sampleWanGrant sampleTarget 0
      sampleCreation).toOption.bind fun created => (fetchWanAccess sampleService created.1 sampleTarget
        (some created.2.1) (sampleFetch created.2.2)).toOption.map fun _ =>
          (created.1.grantExpiresAt)) = some sampleGrant.grantExpiresAt := by decide +kernel
  have name : validateEndpoints ["turn:a.example:3478?transport=udp"] =
      some ["turn:a.example:3478?transport=udp"] := by decide
  have address : validateEndpoints ["turn:[::1]:3478?transport=udp"] =
      some ["turn:[::1]:3478?transport=udp"] := by decide
  obtain ⟨result, issued⟩ := Option.isSome_iff_exists.mp plain
  obtain ⟨created, creation, later⟩ := Option.bind_eq_some_iff.mp fetched
  obtain ⟨access, fetching, same⟩ := Option.map_eq_some_iff.mp later
  refine ⟨⟨result, ok_of_toOption issued, ?_⟩,
    ⟨created, access, ok_of_toOption creation, ok_of_toOption fetching, ?_⟩⟩
  · exact (issued_access_usable sampleService).1 _ result (sampleTables_stored name)
      (sampleTables_stored name) sampleGrant_representable (ok_of_toOption issued)
  · refine (issued_access_usable sampleService).2 sampleWanGrant sampleTarget 0 sampleCreation created.1
      created.2.1 created.2.2 (sampleTables_stored address) (ok_of_toOption creation) created.1 sampleTarget
      _ access ?_ (ok_of_toOption fetching)
    rw [same]
    exact sampleGrant_representable

/-- **Accesses that the client refuses**: the endpoints of the node were replaced between the two reads,
and an endpoint is an address in brackets. -/
theorem heartbeat_splits_access :
    (∃ result, issueAccess sampleService
        (sampleCall "turn:a.example:3478?transport=udp" "turn:b.example:3478?transport=udp") = .ok result ∧
      ¬ Usable sampleService.sha256 result) ∧
    (∃ result, issueAccess sampleService
        (sampleCall "turn:[::1]:3478?transport=udp" "turn:[::1]:3478?transport=udp") = .ok result ∧
      ¬ Usable sampleService.sha256 result) ∧
    ∀ endpoint ∈ ["turn:a.example:3478?transport=udp", "turn:b.example:3478?transport=udp",
      "turn:[::1]:3478?transport=udp"], (sampleTables endpoint).Stored := by
  have split : ((issueAccess sampleService (sampleCall "turn:a.example:3478?transport=udp"
      "turn:b.example:3478?transport=udp")).toOption.map refused) = some true := by decide +kernel
  have bracketed : ((issueAccess sampleService (sampleCall "turn:[::1]:3478?transport=udp"
      "turn:[::1]:3478?transport=udp")).toOption.map refused) = some true := by decide +kernel
  obtain ⟨first, issuedFirst, refusedFirst⟩ := Option.map_eq_some_iff.mp split
  obtain ⟨second, issuedSecond, refusedSecond⟩ := Option.map_eq_some_iff.mp bracketed
  refine ⟨⟨first, ?_, not_usable_of_refused refusedFirst⟩, ⟨second, ?_, not_usable_of_refused refusedSecond⟩, ?_⟩
  · exact ok_of_toOption issuedFirst
  · exact ok_of_toOption issuedSecond
  · intro endpoint member
    refine sampleTables_stored ?_
    revert endpoint
    decide

end MiniRemoteDesktop.Relay.Server
