/-
**Credentials that the client accepts** (`app/services/relay_directory.py` beside `mrd-service`,
`relay/client.rs`).

The client forms the TURN URL of every signed endpoint and demands them of the credential. The server
forms URLs of its own in two ways: over the WAN from the signed endpoints, whose hosts it has stripped of
their brackets, and otherwise from the rows of the nodes, as they are once they are locked, while the
signed endpoints come from before the locks and keep their brackets.

* `Formed`, `formed_of_stored` — what the three formatters make of a stored endpoint.
* `bound_iff` — **when the URLs of a row bind the signed endpoints of another**.
* `Accepted`, `verifyCredentials_accepted` — what the client accepts; `issued_of_issue`,
  `accepted_of_issued` — a credential that was issued is accepted until it expires.
-/

import MiniRemoteDesktop.Relay.ServerWan

namespace MiniRemoteDesktop.Relay.Server

open List (any_eq_false length_pos_iff map_cons mem_cons mem_map)
open String (toList_ofList)
open Checked Ranking
open Text

/-! ### Hosts -/

/-- A character that a stored host has, brackets aside. -/
def HostChar (char : Char) : Prop := LowerName char ∨ LowerAddress char

theorem ascii_of_hostChar {char : Char} (host : HostChar char) : char.toNat < 128 :=
  host.elim (fun name => ascii_of_isNameChar name.1) fun address => ascii_of_isAddressChar address.1

/-- Such a character is none of those that the client refuses. -/
theorem accepted_of_hostChar {char : Char} (host : HostChar char) :
    isControl char = false ∧ char ∉ ['@', '/', '?', '#', '\\'] ∧ char ≠ '[' := by
  have checked : ∀ char : Char, char.toNat < 128 → isNameChar char = true ∨ isAddressChar char = true →
      isControl char = false ∧ char ∉ ['@', '/', '?', '#', '\\'] ∧ char ≠ '[' := fun char ascii =>
    of_ascii (P := fun char => isNameChar char = true ∨ isAddressChar char = true →
      isControl char = false ∧ char ∉ ['@', '/', '?', '#', '\\'] ∧ char ≠ '[') (by decide) ascii
  exact checked char (ascii_of_hostChar host) (host.imp And.left And.left)

/-- **A bare host**: a stored one without the brackets. -/
structure BareHost (host : List Char) : Prop where
  nonempty : host ≠ []
  chars : ∀ char ∈ host, HostChar char
  short : host.length ≤ 253

/-- What an authority has around a host. -/
def authority (host : List Char) : List Char := if ':' ∈ host then '[' :: host ++ [']'] else host

/-- A host without its brackets. -/
def bare (host : List Char) : List Char :=
  if host.head? = some '[' ∧ host.getLast? = some ']' then host.tail.dropLast else host

theorem bare_stored {host : List Char} (stored : StoredHost host) :
    BareHost (bare host) ∧ authority (bare host) = host := by
  cases stored with
  | name nonempty chars short =>
    have first : host.head? ≠ some '[' := by
      intro bracket
      have listed := List.mem_of_mem_head? bracket
      exact (accepted_of_hostChar (.inl (chars _ listed))).2.2 rfl
    have plain : ':' ∉ host := fun colon => by cases (chars _ colon).1
    rw [bare, if_neg fun brackets => first brackets.1, authority, if_neg plain]
    exact ⟨⟨nonempty, fun char member => .inl (chars char member), short⟩, rfl⟩
  | address chars colon short =>
    rename_i address
    have last : ('[' :: address ++ [']']).getLast? = some ']' := List.getLast?_concat
    have stripped : ('[' :: address ++ [']']).tail.dropLast = address := by
      show (address ++ [']']).dropLast = address
      exact List.dropLast_concat
    rw [bare, if_pos ⟨rfl, last⟩, stripped, authority, if_pos colon]
    exact ⟨⟨List.ne_nil_of_mem colon, fun char member => .inr (chars char member), short⟩, rfl⟩

/-! ### The formats -/

variable (transport : RelayTransport) (host : List Char) (port : Nat)

/-- The text of an endpoint, put together from strings. -/
theorem storedText_eq :
    storedText transport host port = String.ofList (schemeOf transport) ++ ":" ++ String.ofList host ++
      ":" ++ toString port ++ "?transport=" ++ String.ofList (transportOf transport) := by
  rw [← String.toList_inj]
  simp [storedText, endpointText]

theorem authority_text :
    (if ':' ∈ host then "[" ++ String.ofList host ++ "]" else String.ofList host) =
      String.ofList (authority host) := by
  unfold authority
  split
  · rw [String.ofList_append, String.ofList_cons]
    rfl
  · rfl

/-- What the client forms is the text of an endpoint again, if it forms anything. -/
theorem turnUrl_eq :
    turnUrl ⟨signedTransport transport, String.ofList host, port⟩ =
      if port = 0 ∨ (bytes (String.ofList host)).isEmpty ∨
          253 < (bytes (String.ofList host)).length ∨ host.any isControl ∨
          host.any fun char => char ∈ ['@', '/', '?', '#', '\\'] then .error .credentialBinding
      else .ok (storedText transport (authority host) port) := by
  unfold turnUrl
  rw [toList_ofList, authority_text, storedText_eq]
  cases transport <;> rfl

/-- **The URL that the client forms** of an endpoint with a bare host. -/
theorem turnUrl_bare {host : List Char} {port : Nat} (bare : BareHost host) (positive : 1 ≤ port) :
    turnUrl ⟨signedTransport transport, String.ofList host, port⟩ =
      .ok (storedText transport (authority host) port) := by
  have ascii : Text.IsAscii (String.ofList host) := by
    intro char member
    rw [toList_ofList] at member
    exact ascii_of_hostChar (bare.chars char member)
  have length : (bytes (String.ofList host)).length = host.length := by
    simp [length_bytes_ascii ascii]
  have positiveLength := length_pos_iff.mpr bare.nonempty
  have nonempty : (bytes (String.ofList host)).isEmpty = false := by
    rw [List.isEmpty_eq_false_iff, ← length_pos_iff]
    omega
  have short := bare.short
  have quiet : host.any isControl = false :=
    any_eq_false.mpr fun char member => by
      simp [(accepted_of_hostChar (bare.chars char member)).1]
  have plain : (host.any fun char => char ∈ ['@', '/', '?', '#', '\\']) = false :=
    any_eq_false.mpr fun char member => by
      simpa using (accepted_of_hostChar (bare.chars char member)).2.1
  rw [turnUrl_eq, nonempty, length, quiet, plain, if_neg]
  simp only [Bool.false_eq_true, or_false, false_or]
  omega

theorem signedEndpointHost_ofList :
    signedEndpointHost (String.ofList host) = String.ofList (bare host) := by
  unfold signedEndpointHost bare
  rw [toList_ofList]
  split
  · rfl
  · rfl

/-- **The URL that the server forms** of a signed endpoint. -/
theorem canonicalEndpointUrl_eq :
    canonicalEndpointUrl ⟨signedTransport transport, String.ofList host, port⟩ =
      storedText transport (authority (bare host)) port := by
  unfold canonicalEndpointUrl
  dsimp only
  rw [signedEndpointHost_ofList, toList_ofList, authority_text, storedText_eq]
  cases transport with
  | udp | tcp => rfl
  | tls =>
    have secure : signedTransport .tls = .tls := rfl
    rw [if_pos secure, show "turns:" = String.ofList (schemeOf .tls) ++ ":" by decide,
      show "?transport=tcp" = "?transport=" ++ String.ofList (transportOf .tls) by decide]
    simp only [String.append_assoc]

/-! ### Stored endpoints -/

/-- The signed endpoint of some parts, stripped of its brackets. -/
def strippedOut (parts : RelayEndpoint) : RelayDirectoryEndpoint :=
  { endpointOut parts with host := signedEndpointHost parts.host }

theorem bare_bare {host : List Char} (clean : BareHost host) : bare host = host := by
  refine if_neg fun brackets => ?_
  have listed := List.mem_of_mem_head? brackets.1
  exact (accepted_of_hostChar (clean.chars _ listed)).2.2 rfl

theorem endpointTransport_doubled (rest : List Char) (port : Nat) :
    endpointTransport (storedText transport ('[' :: '[' :: rest) port) = none := by
  have unmatched : matchEndpoint (storedText transport ('[' :: '[' :: rest) port) = none := by
    unfold matchEndpoint storedText endpointText
    rw [toList_ofList, matchScheme_stored]
    rfl
  simp [endpointTransport, unmatched]

/-- **What is formed of a stored endpoint**: the server's URL is its text, and so is the client's once
the brackets are off. With its brackets left on, the client's URL is none that is stored. -/
structure Formed (endpoint : String) (parts : RelayEndpoint) : Prop where
  server : canonicalEndpointUrl (endpointOut parts) = endpoint
  stripped : canonicalEndpointUrl (strippedOut parts) = endpoint
  client : turnUrl (strippedOut parts) = .ok endpoint
  name : ':' ∉ parts.host.toList → strippedOut parts = endpointOut parts
  doubled : ':' ∈ parts.host.toList → ∀ url, turnUrl (endpointOut parts) = .ok url →
    endpointTransport url = none

theorem formed_of_stored {endpoint : String} (stored : StoredEndpoint endpoint) :
    ∃ parts, endpointParts endpoint = some parts ∧ Formed endpoint parts := by
  obtain ⟨transport, host, port, form, positive, fits, rfl⟩ := stored
  obtain ⟨clean, restored⟩ := bare_stored form
  have stripped : strippedOut ⟨transport, String.ofList host, port⟩ =
      ⟨signedTransport transport, String.ofList (bare host), port⟩ := by
    simp [strippedOut, endpointOut, signedEndpointHost_ofList]
  refine ⟨_, endpointParts_stored transport form positive fits, ?_, ?_, ?_, ?_, ?_⟩
  · rw [endpointOut, canonicalEndpointUrl_eq, restored]
  · rw [stripped, canonicalEndpointUrl_eq, bare_bare clean, restored]
  · rw [stripped, turnUrl_bare transport clean positive, restored]
  · intro plain
    rw [toList_ofList] at plain
    have same : bare host = host := by
      cases form with
      | name nonempty chars short =>
        exact bare_bare ⟨nonempty, fun char member => .inl (chars char member), short⟩
      | address chars colon short =>
        exact absurd (.tail _ (List.mem_append_left _ colon)) plain
    rw [stripped, same, endpointOut]
  · intro colon url formed
    rw [toList_ofList] at colon
    cases form with
    | name nonempty chars short => cases (chars _ colon).1
    | address chars _ short =>
      rename_i address
      rw [endpointOut, turnUrl_eq] at formed
      obtain ⟨_, ⟨⟩⟩ := refused_ok formed
      rw [authority, if_pos colon]
      exact endpointTransport_doubled transport _ port

/-! ### What the client accepts -/

/-- **A credential that the client accepts** for a candidate. -/
structure Accepted (nowMs : Nat) (candidate : RelayDirectoryCandidate) (raw : RawRelayCredential) : Prop
    where
  nodeId : raw.nodeId = candidate.nodeId
  identifier : isIdentifier maxIdentifierBytes raw.nodeId = true
  formed : raw.malformed nowMs = false
  distinct : raw.urls.Nodup
  count : raw.urls.length = candidate.endpoints.length
  bound : ∀ endpoint ∈ candidate.endpoints, ∃ url ∈ raw.urls, turnUrl endpoint = .ok url

/-- The credential in it. -/
def entryOf (raw : RawRelayCredential) : ServiceTurnRelayCredentials :=
  ⟨raw.urls, raw.username, raw.credential, raw.expiresAtUnixSeconds⟩

variable {candidates : List RelayDirectoryCandidate} {candidate : RelayDirectoryCandidate}

variable {nowMs : Nat}

theorem verifyCredential_accepted {credentials : Credentials} {raw : RawRelayCredential}
    (accepted : Accepted nowMs candidate raw) (fresh : raw.nodeId ∉ credentials)
    (found : candidates.find? (fun other => other.nodeId = raw.nodeId) = some candidate) :
    verifyCredential candidates nowMs credentials raw =
      .ok (credentials.insert raw.nodeId (entryOf raw)) := by
  have passes : ¬ (raw.nodeId ∈ credentials ∨ raw.malformed nowMs) := by
    rw [accepted.formed]
    exact fun either => either.elim fresh (by decide)
  have counts : ¬ (raw.urls.dedup.length ≠ raw.urls.length ∨
      raw.urls.dedup.length ≠ candidate.endpoints.length) := by
    simp [accepted.distinct.dedup, accepted.count]
  have bound : (candidate.endpoints.forM fun endpoint => do
      let expected ← turnUrl endpoint
      if expected ∈ raw.urls then .ok () else .error RelayClientError.credentialBinding) = .ok () := by
    refine forM_eq_ok.mpr fun endpoint member => ?_
    obtain ⟨url, listed, formed⟩ := accepted.bound endpoint member
    rw [formed]
    exact if_pos listed
  unfold verifyCredential validateNodeId
  rw [if_pos accepted.identifier]
  refine bind_eq_ok.mpr ⟨(), rfl, guarded_eq_ok.mpr ⟨passes, ?_⟩⟩
  rw [found]
  exact bind_eq_ok.mpr ⟨candidate, rfl, guarded_eq_ok.mpr ⟨counts, bind_eq_ok.mpr ⟨(), bound, rfl⟩⟩⟩

variable {raws : List RawRelayCredential}

/-- The loop over accepted credentials. `rest` are the candidates that are left. -/
theorem foldlM_accepted (distinct : (candidates.map (·.nodeId)).Nodup)
    {rest : List RelayDirectoryCandidate} (each : List.Forall₂ (Accepted nowMs) rest raws)
    (listed : ∀ candidate ∈ rest, candidate ∈ candidates) (different : (rest.map (·.nodeId)).Nodup)
    (credentials : Credentials) (fresh : ∀ candidate ∈ rest, candidate.nodeId ∉ credentials) :
    ∃ last, raws.foldlM (verifyCredential candidates nowMs) credentials = .ok last ∧
      last.keys = credentials.keys ∪ (rest.map (·.nodeId)).toFinset ∧
      (∀ nodeId, nodeId ∉ rest.map (·.nodeId) → last.lookup nodeId = credentials.lookup nodeId) ∧
      List.Forall₂ (fun candidate raw => last.lookup candidate.nodeId = some (entryOf raw)) rest raws := by
  induction each generalizing credentials with
  | nil => exact ⟨credentials, rfl, by simp, fun _ _ => rfl, .nil⟩
  | cons accepted _ ih =>
    rename_i candidate raw rest raws _
    have named := accepted.nodeId
    have found : candidates.find? (fun other => other.nodeId = raw.nodeId) = some candidate := by
      rw [named]
      exact find?_of_nodup distinct (listed candidate (.head _))
    rw [map_cons, List.nodup_cons] at different
    have later : ∀ other ∈ rest, other.nodeId ∉ credentials.insert raw.nodeId (entryOf raw) := by
      intro other member inside
      rcases Finmap.mem_insert.mp inside with same | before
      · refine different.1 (mem_map.mpr ⟨other, member, ?_⟩)
        rw [same, named]
      · exact fresh other (.tail _ member) before
    obtain ⟨last, folded, keys, kept, looked⟩ := ih
      (List.forall_mem_cons.mp listed).2 different.2 _ later
    have absent : raw.nodeId ∉ credentials := by
      rw [named]
      exact fresh candidate (.head _)
    have verified := verifyCredential_accepted accepted absent found
    refine ⟨last, ?_, ?_, ?_, .cons ?_ looked⟩
    · rw [List.foldlM_cons, verified]
      exact folded
    · ext nodeId
      rw [keys, Finset.mem_union, Finset.mem_union, Finmap.mem_keys, Finmap.mem_keys, Finmap.mem_insert,
        named, List.mem_toFinset, List.mem_toFinset, map_cons, mem_cons]
      tauto
    · intro nodeId other
      rw [map_cons, mem_cons, not_or] at other
      rw [kept nodeId other.2, Table.lookup_insert_eq, if_neg (by rw [named]; exact other.1)]
    · simp [kept candidate.nodeId different.1, named]

theorem verifyCredentials_accepted (distinct : (candidates.map (·.nodeId)).Nodup)
    (each : List.Forall₂ (Accepted nowMs) candidates raws) :
    ∃ credentials, verifyCredentials candidates raws nowMs = .ok credentials ∧
      List.Forall₂ (fun candidate raw => credentials.lookup candidate.nodeId = some (entryOf raw))
        candidates raws := by
  obtain ⟨credentials, folded, keys, _, looked⟩ := foldlM_accepted distinct each
    (fun _ member => member) distinct ∅ fun candidate _ inside => Finmap.notMem_empty inside
  rw [Finmap.keys_empty, Finset.empty_union] at keys
  refine ⟨credentials, bind_eq_ok.mpr ⟨credentials, folded, guarded_eq_ok.mpr ⟨?_, rfl⟩⟩, looked⟩
  rw [keys]
  simp

/-! ### Endpoints and URLs -/

/-- **The URLs of a credential are those that the client forms** of the signed endpoints. -/
def Bound (candidate : RelayDirectoryCandidate) (urls : List String) : Prop :=
  ∃ formed, candidate.endpoints.mapM turnUrl = .ok formed ∧ ∀ url, url ∈ urls ↔ url ∈ formed

/-- The endpoint has no address in brackets. -/
def named (endpoint : String) : Bool :=
  (endpointParts endpoint).all fun parts => ':' ∉ parts.host.toList

variable {urls : List String}

/-- What `sortedParts` comes to: the parts of every endpoint, in some order. -/
theorem sortedParts_ok {endpoints : List RelayDirectoryEndpoint}
    (sorted : sortedParts urls = .ok endpoints) :
    endpoints.length = urls.length ∧
      (∀ endpoint ∈ endpoints, ∃ url ∈ urls, ∃ parts, endpointParts url = some parts ∧
        endpoint = endpointOut parts) ∧
      ∀ url ∈ urls, ∀ parts, endpointParts url = some parts → endpointOut parts ∈ endpoints := by
  obtain ⟨parts, ran, ⟨⟩⟩ := bind_ok sorted
  refine ⟨?_, fun endpoint member => ?_, fun url member found known => ?_⟩
  · simpa [(sortBy_perm _ _).length_eq] using (mapM_eq_ok.mp ran).length_eq.symm
  · obtain ⟨found, listed, rfl⟩ := mem_map.mp (mem_sortBy.mp member)
    obtain ⟨url, inside, read⟩ := mem_of_mapM ran listed
    exact ⟨url, inside, found, required_ok read, rfl⟩
  · obtain ⟨other, listed, read⟩ := mem_results_of_mem ran member
    have same : found = other := Option.some.inj (known.symm.trans (required_ok read))
    rw [same]
    exact mem_sortBy.mpr (List.mem_map_of_mem listed)

/-- **When the URLs of a row bind the endpoints of another**: the rows have the same endpoints, and none
of them is an address in brackets. -/
theorem bound_iff {signed : List String} (stored : ∀ endpoint ∈ signed, StoredEndpoint endpoint)
    (readable : ∀ url ∈ urls, endpointTransport url ≠ none)
    (sorted : sortedParts signed = .ok candidate.endpoints) :
    Bound candidate urls ↔
      (∀ endpoint, endpoint ∈ signed ↔ endpoint ∈ urls) ∧ ∀ endpoint ∈ signed, named endpoint = true := by
  obtain ⟨_, sources, parts⟩ := sortedParts_ok sorted
  constructor
  · rintro ⟨formed, ran, same⟩
    -- What the client forms of a signed endpoint is read by the server, so no bracket is doubled.
    have each : ∀ endpoint ∈ signed, ∀ found, endpointParts endpoint = some found →
        ':' ∉ found.host.toList ∧ turnUrl (endpointOut found) = .ok endpoint := by
      intro endpoint member found known
      obtain ⟨other, read, form⟩ := formed_of_stored (stored endpoint member)
      cases known.symm.trans read
      obtain ⟨url, listed, client⟩ := mem_results_of_mem ran (parts endpoint member found known)
      have plain : ':' ∉ found.host.toList := fun colon =>
        readable url ((same url).mpr listed) (form.doubled colon url client)
      exact ⟨plain, form.name plain ▸ form.client⟩
    refine ⟨fun endpoint => ⟨fun member => ?_, fun member => ?_⟩, fun endpoint member => ?_⟩
    · obtain ⟨found, read, _⟩ := formed_of_stored (stored endpoint member)
      obtain ⟨url, listed, client⟩ := mem_results_of_mem ran (parts endpoint member found read)
      cases client.symm.trans (each endpoint member found read).2
      exact (same endpoint).mpr listed
    · obtain ⟨out, inside, client⟩ := mem_of_mapM ran ((same endpoint).mp member)
      obtain ⟨url, listed, found, read, rfl⟩ := sources out inside
      cases client.symm.trans (each url listed found read).2
      exact listed
    · obtain ⟨found, read, _⟩ := formed_of_stored (stored endpoint member)
      simpa [named, read] using decide_eq_true (each endpoint member found read).1
  · rintro ⟨same, plain⟩
    have client : ∀ out ∈ candidate.endpoints, ∃ endpoint ∈ signed, turnUrl out = .ok endpoint := by
      intro out member
      obtain ⟨url, listed, found, read, rfl⟩ := sources out member
      obtain ⟨other, known, form⟩ := formed_of_stored (stored url listed)
      cases read.symm.trans known
      have bare := plain url listed
      unfold named at bare
      rw [read] at bare
      exact ⟨url, listed, form.name (of_decide_eq_true bare) ▸ form.client⟩
    obtain ⟨formed, ran⟩ := exists_mapM_ok fun out member =>
      (client out member).imp fun _ both => both.2
    refine ⟨formed, ran, fun url => ⟨fun member => ?_, fun member => ?_⟩⟩
    · have listed := (same url).mpr member
      obtain ⟨found, read, form⟩ := formed_of_stored (stored url listed)
      obtain ⟨result, inside, done⟩ := mem_results_of_mem ran (parts url listed found read)
      have bare := plain url listed
      unfold named at bare
      rw [read] at bare
      rw [← form.name (of_decide_eq_true bare), form.client] at done
      cases done
      exact inside
    · obtain ⟨out, inside, done⟩ := mem_of_mapM ran member
      obtain ⟨endpoint, listed, formed⟩ := client out inside
      cases done.symm.trans formed
      exact (same url).mp listed

/-! ### Credentials -/

/-- The first instant after the last that a `datetime` can be. -/
def datetimeEnd : Nat := fromTimestamp 253402300800

/-- A credential, as the client receives it. -/
def NodeTurnCredential.raw (credential : NodeTurnCredential) : RawRelayCredential where
  nodeId := credential.nodeId
  urls := credential.urls
  username := credential.username
  credential := credential.credential
  expiresAtUnixSeconds := credential.expiresAtUnixSeconds

theorem scope_spec {value : String} (scope : credentialScope value = true) :
    Text.IsAscii value ∧ value.toList.length ≤ 128 ∧ ∀ char ∈ value.toList, isControl char = false := by
  unfold credentialScope at scope
  simp only [Bool.and_eq_true, decide_eq_true_eq, List.all_eq_true] at scope
  obtain ⟨⟨_, short⟩, each⟩ := scope
  have small : ∀ byte : UInt8, (isAsciiAlphanumeric byte || byte == 46 || byte == 95 ||
      byte == 45) = true → byte.toNat < 128 := by
    intro byte allowed
    unfold isAsciiAlphanumeric isAsciiDigit at allowed
    simp only [Bool.or_eq_true, Bool.and_eq_true, decide_eq_true_eq, beq_iff_eq,
      UInt8.le_iff_toNat_le] at allowed
    rcases allowed with ((((⟨_, upper⟩ | ⟨_, upper⟩) | ⟨_, upper⟩) | rfl) | rfl) | rfl
    · exact Nat.lt_of_le_of_lt upper (by decide)
    · exact Nat.lt_of_le_of_lt upper (by decide)
    · exact Nat.lt_of_le_of_lt upper (by decide)
    · decide
    · decide
    · decide
  have ascii := ascii_of_bytes fun byte member => small byte (each byte member)
  refine ⟨ascii, length_bytes_ascii ascii ▸ short, fun char member => ?_⟩
  have listed : UInt8.ofNat char.toNat ∈ bytes value := by
    simp [bytes_ascii ascii, List.mem_map_of_mem member]
  exact of_ascii (P := fun char => (isAsciiAlphanumeric (UInt8.ofNat char.toNat) ||
    UInt8.ofNat char.toNat == 46 || UInt8.ofNat char.toNat == 95 || UInt8.ofNat char.toNat == 45) = true →
    isControl char = false) (by decide) (ascii char member) (each _ listed)

/-- A text that the client accepts in a credential. -/
structure Printable (value : String) : Prop where
  nonempty : bytes value ≠ []
  short : (bytes value).length ≤ 512
  printable : value.toList.any isControl = false

/-- **A username that the client accepts.** -/
theorem printable_turnUsername {expiresAt : Nat} {userId sessionId nodeId : String}
    (soon : expiresAt < 253402300800) (user : credentialScope userId = true)
    (session : credentialScope sessionId = true) (node : credentialScope nodeId = true) :
    Printable (turnUsername expiresAt userId sessionId nodeId) := by
  obtain ⟨userAscii, userShort, userQuiet⟩ := scope_spec user
  obtain ⟨sessionAscii, sessionShort, sessionQuiet⟩ := scope_spec session
  obtain ⟨nodeAscii, nodeShort, nodeQuiet⟩ := scope_spec node
  have digits : ∀ char ∈ Nat.toDigits 10 expiresAt, char.toNat < 128 ∧ isControl char = false := by
    intro char member
    have digit := Nat.isDigit_of_mem_toDigits (by decide) (by decide) member
    have ascii : char.toNat < 128 := by
      refine ascii_of_isNameChar ?_
      simp [isNameChar, Char.isAlphanum, digit]
    exact ⟨ascii, of_ascii (P := fun char => char.isDigit = true → isControl char = false)
      (by decide) ascii digit⟩
  have count : (Nat.toDigits 10 expiresAt).length ≤ 12 :=
    (Nat.length_toDigits_le_iff (by decide) (by decide)).mpr (by omega)
  have text : (turnUsername expiresAt userId sessionId nodeId).toList = Nat.toDigits 10 expiresAt ++
      [':'] ++ userId.toList ++ [':'] ++ sessionId.toList ++ [':'] ++ nodeId.toList := by
    simp [turnUsername]
  have each : ∀ char ∈ (turnUsername expiresAt userId sessionId nodeId).toList,
      char.toNat < 128 ∧ isControl char = false := by
    intro char member
    rw [text] at member
    simp only [List.mem_append, List.mem_singleton] at member
    rcases member with (((((digit | colon) | inUser) | colon) | inSession) | colon) | inNode
    · exact digits char digit
    · exact colon ▸ by decide
    · exact ⟨userAscii char inUser, userQuiet char inUser⟩
    · exact colon ▸ by decide
    · exact ⟨sessionAscii char inSession, sessionQuiet char inSession⟩
    · exact colon ▸ by decide
    · exact ⟨nodeAscii char inNode, nodeQuiet char inNode⟩
  have length : (bytes (turnUsername expiresAt userId sessionId nodeId)).length =
      (turnUsername expiresAt userId sessionId nodeId).toList.length :=
    length_bytes_ascii fun char member => (each char member).1
  rw [text] at length
  simp only [List.length_append, List.length_singleton] at length
  refine ⟨fun empty => ?_, by omega, any_eq_false.mpr fun char member => ?_⟩
  · rw [empty, List.length_nil] at length
    omega
  · simp [(each char member).2]

/-- **A credential that was issued.** -/
structure Issued (nodeId : String) (urls : List String) (credential : NodeTurnCredential) : Prop where
  node : credential.nodeId = nodeId
  same : credential.urls = urls
  count : 1 ≤ urls.length ∧ urls.length ≤ 4
  username : Printable credential.username
  credential : Printable credential.credential

variable {credential : NodeTurnCredential}

theorem issued_of_issue {service : NodeTurnCredentialService} {now : Nat}
    {userId sessionId nodeId : String} {encryptedSecret : List UInt8}
    {deadlines : CredentialDeadlines}
    (issued : service.issue now userId sessionId nodeId urls encryptedSecret deadlines = some credential)
    (soon : deadlines.grant < 253402300800) : Issued nodeId urls credential := by
  unfold NodeTurnCredentialService.issue at issued
  rw [Option.ite_none_left_eq_some] at issued
  obtain ⟨scopes, issued⟩ := issued
  rw [Option.ite_none_left_eq_some] at issued
  obtain ⟨formed, issued⟩ := issued
  rw [Option.ite_none_left_eq_some] at issued
  obtain ⟨password, _, rfl⟩ := Option.map_eq_some_iff.mp issued.2
  simp only [not_or, Bool.not_eq_false] at scopes formed
  have nonempty := length_pos_iff.mpr formed.1
  have before : service.expiresAt now deadlines < 253402300800 := by
    unfold NodeTurnCredentialService.expiresAt
    omega
  exact ⟨rfl, rfl, ⟨nonempty, by omega⟩, printable_turnUsername before scopes.1 scopes.2.1 scopes.2.2,
    ⟨password.nonempty, password.short, password.printable⟩⟩

theorem accepted_of_issued (issued : Issued candidate.nodeId urls credential)
    (identifier : validGeneralId candidate.nodeId = true) (distinct : urls.Nodup)
    (count : urls.length = candidate.endpoints.length)
    (bound : ∀ endpoint ∈ candidate.endpoints, ∃ url ∈ urls, turnUrl endpoint = .ok url)
    (fresh : nowMs / 1000 < credential.expiresAtUnixSeconds) :
    Accepted nowMs candidate credential.raw := by
  obtain ⟨named, rfl, size, username, password⟩ := issued
  have some : credential.urls.isEmpty = false := by
    rw [List.isEmpty_eq_false_iff, ← length_pos_iff]
    omega
  refine ⟨named, ?_, ?_, distinct, count, bound⟩
  · show isIdentifier 128 credential.nodeId = true
    rw [named]
    exact identifier
  · unfold RawRelayCredential.malformed NodeTurnCredential.raw maxUrlsPerCredential
    dsimp only
    rw [some, decide_eq_false (by omega), List.isEmpty_eq_false_iff.mpr username.nonempty,
      decide_eq_false (Nat.not_lt.mpr username.short), username.printable,
      List.isEmpty_eq_false_iff.mpr password.nonempty,
      decide_eq_false (Nat.not_lt.mpr password.short), password.printable,
      decide_eq_false (Nat.not_le.mpr fresh)]
    rfl

end MiniRemoteDesktop.Relay.Server
