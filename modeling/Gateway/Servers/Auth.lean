import Gateway.Types
import Mathlib.Data.List.Infix

/-!
# Admission of WebSocket connections

`getAccountIDSecretHashFromReq` and the `wsHandler` that `NewWSServer`
installs: the account an upgrade request is admitted as, or the close message
it is refused with.  Base64 decoding, the SDN's account lookup and the account
extension of a TLS client certificate are collaborators with any behaviour.
-/

namespace Gateway.Servers

/-- `sdnmessage.Account`, the fields `wsHandler` reads or writes. -/
structure Account where
  accountID : String
  secretHash : String
  tierName : String
  deriving DecidableEq

/-- The gateway's side of `wsHandler`. -/
structure WsEnv where
  /-- `feedManager.accountModel`, the gateway's own account. -/
  accountModel : Account
  /-- `feedManager.cfg.WebsocketTLSEnabled`. -/
  websocketTLSEnabled : Bool
  /-- `base64.StdEncoding.DecodeString`, read back as a string. -/
  decodeString : String → Except String String
  /-- `feedManager.getCustomerAccountModel`. -/
  getCustomerAccountModel : String → Except String Account
  /-- `sdnmessage.GetDefaultEliteAccount` at the time of the request. -/
  defaultEliteAccount : Account
  /-- `TierName.IsEnterprise`. -/
  isEnterprise : String → Bool

/-- The parts of an upgrade request `wsHandler` reads. -/
structure UpgradeRequest where
  /-- The Authorization header, `""` when absent. -/
  authorization : String
  method : String
  /-- `GetAccountIDFromBxCertificate` of the first peer certificate, `none`
  when the request carries no TLS state or no certificate. -/
  peerCertificate : Option (Except String String)

/-- What `wsHandler` does with a request. -/
inductive Admission where
  /-- `errorWithDelay` with this close message. -/
  | rejected (msg : String)
  /-- `handleWSClientConnection` with this account model. -/
  | admitted (account : Account)
  deriving DecidableEq

/-- `%v` of a byte slice. -/
def formatBytes (payload : String) : String :=
  "[" ++ " ".intercalate (payload.toUTF8.data.toList.map toString) ++ "]"

/-- `strings.SplitN(payload, ":", 2)` when it has two parts: the text before
the first colon and the rest. -/
def splitAccountIDAndHash (payload : String) : Option (String × String) :=
  match payload.toList.span (· ≠ ':') with
  | (_, []) => none
  | (accountID, _ :: secretHash) => some (String.mk accountID, String.mk secretHash)

/-- The final check of `getAccountIDSecretHashFromReq`. -/
def requireAccountID (method accountID secretHash : String) : Except String (String × String) :=
  if accountID = "" then .error ("missing authorization from method: " ++ method)
  else .ok (accountID, secretHash)

namespace WsEnv

variable (env : WsEnv)

def getAccountIDSecretHashFromReq (request : UpgradeRequest) : Except String (String × String) :=
  if request.authorization ≠ "" then
    match env.decodeString request.authorization with
    | .error err =>
      .error ("DecodeString error: " ++ err ++ " invalid Authorization: " ++ request.authorization)
    | .ok payload =>
      match splitAccountIDAndHash payload with
      | none => .error ("invalid Authorization: " ++ request.authorization ++ " palyoad: " ++
          formatBytes payload ++ ", authorization can be generate from account_id")
      | some (accountID, secretHash) => requireAccountID request.method accountID secretHash
  else if env.websocketTLSEnabled then
    match request.peerCertificate with
    | some (.error err) => .error ("failed to get account_id extension, " ++ err)
    | some (.ok accountID) => requireAccountID request.method accountID ""
    | none => requireAccountID request.method "" ""
  else requireAccountID request.method "" ""

/-- The account model of a connection of another account: the SDN's, or a
default elite account under the connection's ID and secret when the SDN fails
for another reason than `StatusUnauthorized`, tested as
`strings.Contains("401", err.Error())`.  Only enterprise tiers pass. -/
def customerAccountModel (connectionAccountID connectionSecretHash : String) :
    Except String Account :=
  let model : Except String Account :=
    match env.getCustomerAccountModel connectionAccountID with
    | .error err =>
      if err.toList <:+: "401".toList then
        .error "account is not authorized to get other accounts information"
      else .ok { env.defaultEliteAccount with
        accountID := connectionAccountID, secretHash := connectionSecretHash }
    | .ok model => .ok model
  match model with
  | .error msg => .error msg
  | .ok model =>
    if !env.isEnterprise model.tierName then
      .error "account must be enterprise / enterprise elite / ultra"
    else .ok model

def wsHandler (request : UpgradeRequest) : Admission :=
  match env.getAccountIDSecretHashFromReq request with
  | .error _ => .rejected "failed parsing the authorization header"
  | .ok (connectionAccountID, connectionSecretHash) =>
    let connectionAccountModel :=
      if connectionAccountID ≠ env.accountModel.accountID then
        env.customerAccountModel connectionAccountID connectionSecretHash
      else .ok env.accountModel
    match connectionAccountModel with
    | .error msg => .rejected msg
    | .ok model =>
      if model.secretHash ≠ connectionSecretHash ∧ connectionSecretHash ≠ "" then
        .rejected "wrong value in the authorization header"
      else .admitted model

/-! ## Credentials -/

theorem splitAccountIDAndHash_append {A : String} (hcolon : ':' ∉ A.toList) (s : String) :
    splitAccountIDAndHash (A ++ ":" ++ s) = some (A, s) := by
  have hpos : ∀ c ∈ A.data, (!decide (c = ':')) = true := by
    intro c hc
    simp only [Bool.not_eq_true', decide_eq_false_iff_not]
    rintro rfl
    exact hcolon hc
  simp [splitAccountIDAndHash, List.span_eq_take_drop, String.toList,
    List.takeWhile_append_of_pos hpos, List.dropWhile_append_of_pos hpos]

example : splitAccountIDAndHash "gw:s:t" = some ("gw", "s:t") := by decide

theorem getAccountIDSecretHashFromReq_header {request : UpgradeRequest} {A s : String}
    (hauth : request.authorization ≠ "")
    (hdecode : env.decodeString request.authorization = .ok (A ++ ":" ++ s))
    (hA : A ≠ "") (hcolon : ':' ∉ A.toList) :
    env.getAccountIDSecretHashFromReq request = .ok (A, s) := by
  simp [getAccountIDSecretHashFromReq, hauth, hdecode, splitAccountIDAndHash_append hcolon,
    requireAccountID, hA]

theorem getAccountIDSecretHashFromReq_ok {request : UpgradeRequest} {a s : String}
    (h : env.getAccountIDSecretHashFromReq request = .ok (a, s)) :
    (request.authorization ≠ "" ∧ ∃ payload,
      env.decodeString request.authorization = .ok payload ∧
      splitAccountIDAndHash payload = some (a, s)) ∨
    (request.authorization = "" ∧ env.websocketTLSEnabled ∧
      request.peerCertificate = some (.ok a) ∧ s = "") := by
  unfold getAccountIDSecretHashFromReq at h
  split_ifs at h with hauth htls
  · split at h
    next => cases h
    next payload hpayload =>
      split at h
      next => cases h
      next a' s' hsplit =>
        unfold requireAccountID at h
        split_ifs at h
        cases h
        exact .inl ⟨hauth, payload, hpayload, hsplit⟩
  · split at h
    next => cases h
    next a' hcert =>
      unfold requireAccountID at h
      split_ifs at h
      cases h
      exact .inr ⟨not_not.mp hauth, htls, hcert, rfl⟩
    next => simp [requireAccountID] at h
  · simp [requireAccountID] at h

/-! ## Admission -/

theorem wsHandler_ownAccount {request : UpgradeRequest} {s : String}
    (hreq : env.getAccountIDSecretHashFromReq request = .ok (env.accountModel.accountID, s)) :
    env.wsHandler request = if env.accountModel.secretHash ≠ s ∧ s ≠ "" then
      .rejected "wrong value in the authorization header" else .admitted env.accountModel := by
  simp only [wsHandler, hreq, ne_eq, not_true_eq_false, if_false]

theorem wsHandler_admitted {request : UpgradeRequest} {model : Account}
    (h : env.wsHandler request = .admitted model) :
    ∃ a s, env.getAccountIDSecretHashFromReq request = .ok (a, s) ∧
      (a = env.accountModel.accountID ∧ model = env.accountModel ∨
        a ≠ env.accountModel.accountID ∧ env.customerAccountModel a s = .ok model) ∧
      (model.secretHash = s ∨ s = "") := by
  unfold wsHandler at h
  split at h
  next => cases h
  next a s hreq =>
    refine ⟨a, s, hreq, ?_⟩
    dsimp only at h
    split at h
    next => cases h
    next model' hmodel =>
      split_ifs at h with hsecret
      cases h
      refine ⟨?_, by tauto⟩
      split_ifs at hmodel with hown
      · exact .inr ⟨hown, hmodel⟩
      · cases hmodel
        exact .inl ⟨not_not.mp hown, rfl⟩

theorem customerAccountModel_accountID
    (hsdn : ∀ a model, env.getCustomerAccountModel a = .ok model → model.accountID = a)
    {a s : String} {model : Account} (h : env.customerAccountModel a s = .ok model) :
    model.accountID = a := by
  unfold customerAccountModel at h
  dsimp only at h
  split at h
  next => cases h
  next model' hmodel =>
    split_ifs at h
    cases h
    split at hmodel
    next => split_ifs at hmodel; cases hmodel; rfl
    next hsdn' => cases hmodel; exact hsdn a _ hsdn'

/-- A header "A:s" for the gateway's own account A is admitted exactly when s
is the account's secret hash or empty; and, when the SDN answers every lookup
with the model of the account asked for, every admitted connection runs under
the account its header or its client certificate names. -/
theorem wsHandler_admission :
    (∀ request A s, request.authorization ≠ "" →
      env.decodeString request.authorization = .ok (A ++ ":" ++ s) →
      A = env.accountModel.accountID → A ≠ "" → ':' ∉ A.toList →
      ((∃ model, env.wsHandler request = .admitted model) ↔
        s = env.accountModel.secretHash ∨ s = "")) ∧
    ((∀ a model, env.getCustomerAccountModel a = .ok model → model.accountID = a) →
      ∀ request model, env.wsHandler request = .admitted model →
        (request.authorization ≠ "" ∧ ∃ payload s,
          env.decodeString request.authorization = .ok payload ∧
          splitAccountIDAndHash payload = some (model.accountID, s)) ∨
        (request.authorization = "" ∧ env.websocketTLSEnabled ∧
          request.peerCertificate = some (.ok model.accountID))) := by
  refine ⟨fun request A s hauth hdecode hown hA hcolon => ?_, fun hsdn request model h => ?_⟩
  · have hreq := env.getAccountIDSecretHashFromReq_header hauth hdecode hA hcolon
    rw [hown] at hreq
    rw [env.wsHandler_ownAccount hreq]
    split_ifs with hsecret
    · simp only [exists_false, false_iff]
      tauto
    · simp only [Admission.admitted.injEq, exists_eq', true_iff]
      tauto
  · obtain ⟨a, s, hreq, hmodel, -⟩ := env.wsHandler_admitted h
    have ha : model.accountID = a := by
      rcases hmodel with ⟨rfl, rfl⟩ | ⟨-, hcustomer⟩
      · rfl
      · exact env.customerAccountModel_accountID hsdn hcustomer
    subst ha
    rcases env.getAccountIDSecretHashFromReq_ok hreq with
      ⟨hauth, payload, hp, hsplit⟩ | ⟨hauth, htls, hcert, -⟩
    · exact .inl ⟨hauth, payload, s, hp, hsplit⟩
    · exact .inr ⟨hauth, htls, hcert⟩

end WsEnv

def WsEnv.sample : WsEnv where
  accountModel := ⟨"gw", "secret", "EnterpriseElite"⟩
  websocketTLSEnabled := false
  decodeString token :=
    if token = "Z3c6" then .ok "gw:" else .error "illegal base64 data at input byte 0"
  getCustomerAccountModel _ := .error "no account"
  defaultEliteAccount := ⟨"", "", "EnterpriseElite"⟩
  isEnterprise _ := true

/-- The header "gw:", with an empty secret, is admitted as the gateway's own account. -/
theorem ownAccount_admitted_without_secret :
    WsEnv.sample.decodeString "Z3c6" = .ok ("gw" ++ ":" ++ "") ∧
      WsEnv.sample.accountModel.accountID = "gw" ∧ "" ≠ WsEnv.sample.accountModel.secretHash ∧
      WsEnv.sample.wsHandler ⟨"Z3c6", "GET", none⟩ = .admitted WsEnv.sample.accountModel :=
  ⟨rfl, rfl, by decide, by decide⟩


end Gateway.Servers
