import Gateway.Engine
import Gateway.Proofs.Route.Table
import Gateway.Proofs.WebSocket.Upgrade

namespace Gateway

open Http (Headers Method Uri)
open Http.Headers (lines ofRaw?)
open WebSocket.Upgrade (Accepts Restated check isRequested)

theorem RouteTable.covers_of_find? {table : RouteTable} {method : Method} {path : String} {websocket : Bool}
    {found : RouteMatch} (answered : table.find? method path websocket = some found) :
    found.verb.Covers method websocket := by
  obtain ⟨⟨verb, pattern⟩, -, answer⟩ := List.exists_of_findSome?_eq_some answered
  dsimp only at answer
  split at answer
  · rename_i accepted
    split at answer
    · cases answer
      exact (Verb.accepts_iff verb method websocket).mp accepted
    · cases answer
  · cases answer

theorem RouteTable.verb_of_find? {table : RouteTable} {method : Method} {path : String} {found : RouteMatch}
    (answered : table.find? method path true = some found) : found.verb = .ws :=
  of_decide_eq_true (covers_of_find? answered).kind

namespace WebSocket.Upgrade

theorem isRequested_iff (headers : Headers) : isRequested headers = true ↔ ∃ accept, check headers = .ok accept := by
  rw [isRequested]
  cases check headers with
  | ok accept => exact iff_of_true rfl ⟨accept, rfl⟩
  | error error => exact iff_of_false (by simp) (by simp)

def grant (accept : List Char) : Headers :=
  [⟨"connection", Text.bytes "Upgrade"⟩, ⟨"upgrade", Text.bytes "websocket"⟩,
    ⟨"sec-websocket-accept", Text.bytes (String.ofList accept)⟩]

theorem Accepts.response {key : Bytes} {accept : String} (accepts : Accepts key accept.toList) :
    response accept = .ok (.switchingProtocols, grant accept.toList) := by
  have legal := accepts.legal.2.2
  rw [String.ofList_toList] at legal
  have value : Http.fieldValue? (Text.bytes accept) = some (Text.bytes accept) := if_pos legal
  rw [Upgrade.response, value, grant, String.ofList_toList]

end WebSocket.Upgrade

namespace Engine

open WebSocket.Upgrade (grant isRequested_iff)

theorem upgrade_of_check (e : Engine) {raw : List (String × Bytes)} {headers : Headers}
    (read : ofRaw? raw = some headers) (requested : isRequested headers = true) :
    ∃ key accept, (lines raw "sec-websocket-key").head? = some key ∧ key ≠ [] ∧ Accepts key accept ∧
      check headers = .ok (String.ofList accept) ∧
      e.upgrade headers = (.upgraded .switchingProtocols (grant accept), e.measure (.requestTaken (some .ws))) := by
  obtain ⟨accept, accepted⟩ := (isRequested_iff headers).mp requested
  obtain ⟨key, isFirst, filled, accepts⟩ := WebSocket.Upgrade.check_ok read accepted
  refine ⟨key, accept.toList, isFirst, filled, accepts, ?_, ?_⟩
  · rw [accepted, String.ofList_toList]
  · rw [upgrade, accepted]
    dsimp only
    rw [accepts.response]

theorem handleRequest_of_requested (e : Engine) (id : RequestId) {method : Method} {uri : Uri} {headers : Headers}
    (requested : isRequested headers = true) {found : RouteMatch}
    (route : e.routes.find? method uri.path true = some found) :
    e.handleRequest id method uri headers = e.upgrade headers := by
  unfold handleRequest
  dsimp only
  rw [requested, route]
  rfl

theorem handleRequest_upgraded {e : Engine} {id : RequestId} {method : Method} {uri : Uri} {headers fields : Headers}
    {status : Http.StatusCode} (upgraded : (e.handleRequest id method uri headers).1 = .upgraded status fields) :
    isRequested headers = true ∧ ∃ found, e.routes.find? method uri.path true = some found := by
  unfold handleRequest at upgraded
  dsimp only at upgraded
  split at upgraded
  · cases upgraded
  · rename_i found route
    split at upgraded
    · rename_i requested
      rw [requested] at route
      exact ⟨requested, found, route⟩
    · unfold dispatch at upgraded
      dsimp only at upgraded
      split at upgraded <;> cases upgraded

/-- Every request that passes the check has a first key, and the engine grants it a connection with the answer to that
    key: 28 characters that can stand in a header. If a route answers the request, it is registered for WebSocket
    connections, and this is what the request gets; no request gets it that fails the check or that no such route
    answers. And requests that differ only in the case of names, in the case of the values of `connection` and
    `upgrade`, and in fields of other names than the four that count, are checked and answered alike. -/
theorem upgrade_handshake (e : Engine) (id : RequestId) (method : Method) (uri : Uri) {raw : List (String × Bytes)}
    {headers : Headers} (read : ofRaw? raw = some headers) :
    (isRequested headers = true → ∃ key accept,
      (lines raw "sec-websocket-key").head? = some key ∧ key ≠ [] ∧ Accepts key accept ∧ accept.length = 28 ∧
      (Text.bytes (String.ofList accept)).length = 28 ∧
      (Text.bytes (String.ofList accept)).all Http.isValueByte = true ∧
      check headers = .ok (String.ofList accept) ∧
      e.upgrade headers = (.upgraded .switchingProtocols (grant accept), e.measure (.requestTaken (some .ws))) ∧
      ∀ found, e.routes.find? method uri.path true = some found →
        found.verb = .ws ∧ e.handleRequest id method uri headers = e.upgrade headers) ∧
    (∀ status fields, (e.handleRequest id method uri headers).1 = .upgraded status fields →
      isRequested headers = true ∧ ∃ found, e.routes.find? method uri.path true = some found ∧ found.verb = .ws) ∧
    ∀ raw' headers', Relation.ReflTransGen Restated raw raw' → ofRaw? raw' = some headers' →
      isRequested headers' = isRequested headers ∧ check headers' = check headers ∧
      e.upgrade headers' = e.upgrade headers := by
  refine ⟨fun requested => ?_, fun status fields upgraded => ?_, fun raw' headers' restated read' => ?_⟩
  · obtain ⟨key, accept, isFirst, filled, accepts, accepted, granted⟩ := e.upgrade_of_check read requested
    obtain ⟨length, bytes, legal⟩ := accepts.legal
    have size : (Text.bytes (String.ofList accept)).length = 28 := by rw [bytes, List.length_map, length]
    refine ⟨key, accept, isFirst, filled, accepts, length, size, legal, accepted, granted, ?_⟩
    intro found route
    exact ⟨RouteTable.verb_of_find? route, e.handleRequest_of_requested id requested route⟩
  · obtain ⟨requested, found, route⟩ := handleRequest_upgraded upgraded
    exact ⟨requested, found, route, RouteTable.verb_of_find? route⟩
  · have same := WebSocket.Upgrade.check_of_restated restated read read'
    rw [isRequested, isRequested, upgrade, upgrade, ← same]
    exact ⟨rfl, rfl, rfl⟩

def talking : Engine := (start {}).addRoute .ws "/chat"

open WebSocket.Upgrade (sample) in
/-- The key and the answer are those of the standard. -/
theorem upgrade_handshake_sample : ∃ headers headers', ofRaw? (sample ["Upgrade"]) = some headers ∧
    ofRaw? (("Host", Text.bytes "localhost") :: sample ["UPGRADE"]) = some headers' ∧
    (talking.handleRequest ⟨.fresh 0 1⟩ ⟨"GET", by decide⟩ ⟨"/chat", none⟩ headers).1 =
      .upgraded .switchingProtocols (grant "s3pPLMBiTxaQ9kYGzzhZRbK+xOo=".toList) ∧
    check headers' = .ok "s3pPLMBiTxaQ9kYGzzhZRbK+xOo=" := by
  have wellFormed : ∀ field ∈ sample ["Upgrade"], Http.Headers.WellFormed field := by decide
  have wellFormed' : ∀ field ∈ ("Host", Text.bytes "localhost") :: sample ["UPGRADE"],
    Http.Headers.WellFormed field := by decide
  have read := Http.Headers.ofRaw?_wellFormed wellFormed
  have read' := Http.Headers.ofRaw?_wellFormed wellFormed'
  have checked : (ofRaw? (sample ["Upgrade"])).map check = some (.ok "s3pPLMBiTxaQ9kYGzzhZRbK+xOo=") := by
    decide +kernel
  rw [read, Option.map_some, Option.some.injEq] at checked
  obtain ⟨granted, -, alike⟩ := talking.upgrade_handshake ⟨.fresh 0 1⟩ ⟨"GET", by decide⟩ ⟨"/chat", none⟩ read
  obtain ⟨_, accept, -, -, -, -, -, -, accepted, upgraded, routed⟩ := granted ((isRequested_iff _).mpr ⟨_, checked⟩)
  obtain ⟨found, route⟩ : ∃ found, talking.routes.find? ⟨"GET", by decide⟩ "/chat" true = some found :=
    ⟨⟨.ws, "/chat", []⟩, by decide⟩
  have restated : Relation.ReflTransGen Restated (sample ["Upgrade"])
      (("Host", Text.bytes "localhost") :: sample ["UPGRADE"]) := by
    have shouted : Restated (sample ["Upgrade"]) (sample ["UPGRADE"]) := .value [] _ (by decide) (by decide)
    exact .tail (.single shouted) (.others (by decide))
  refine ⟨_, _, read, read', ?_, ?_⟩
  · rw [(routed found route).2, upgraded, show accept = "s3pPLMBiTxaQ9kYGzzhZRbK+xOo=".toList by
      rw [← String.toList_ofList (l := accept), Except.ok.inj (accepted.symm.trans checked)]]
  · rw [(alike _ _ restated read').2.1, checked]

end Engine

end Gateway
