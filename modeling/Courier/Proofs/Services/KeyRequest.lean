import Courier.Proofs.Http.Query
import Courier.Proofs.Services.KeyMemory

/-!
Requests to the key service. A request says for which key it is made, so what is remembered can be
read off the requests and the answers to them alone. `keyMemory_faithful` says what is remembered,
and what comes of the next key.
-/

namespace Courier

theorem Http.Request.eq_of_build {address : String} {headers : List (String × String)} {body : Body}
    {request : Http.Request} (h : Http.Request.build address headers body = .ok request) :
    Http.Url.normal address = .ok request.url ∧ request.headers = headers ∧
      request.body = body := by
  unfold build at h
  split at h
  · cases h
  · split at h
    · cases h
    · split at h
      · next hnormal =>
        cases h
        exact ⟨hnormal, rfl, rfl⟩
      · cases h

namespace Services

/-- The query of an address that unwraps keys of the given kind. -/
def keyQuery (keyId : String) : List Char :=
  "keyId=".toList ++ (Text.percentEncode keyId).toList

theorem unwrapAddress_eq (service : Endpoint) (keyId : String) :
    unwrapAddress service keyId =
      dropSlashes service.url ++ "/datakey/actions/decrypt" ++
        String.ofList ('?' :: keyQuery keyId) := by
  have hname : '?' :: "keyId=".toList = "?keyId=".toList := by decide
  have hlist : '?' :: keyQuery keyId = "?keyId=".toList ++ (Text.percentEncode keyId).toList :=
    congrArg (· ++ (Text.percentEncode keyId).toList) hname
  have hquery : String.ofList ('?' :: keyQuery keyId) = "?keyId=" ++ Text.percentEncode keyId := by
    rw [hlist, ← String.toList_append, String.ofList_toList]
  have hpath : "/datakey/actions/decrypt?keyId=" = "/datakey/actions/decrypt" ++ "?keyId=" := rfl
  rw [unwrapAddress, hquery, hpath]
  simp only [String.append_assoc]

theorem isSettled_of_mem_keyQuery {keyId : String} {c : Char} (h : c ∈ keyQuery keyId) :
    Text.isSettled c := by
  obtain hname | hcode := List.mem_append.1 h
  · have hall : "keyId=".toList.all Text.isSettled := by decide
    exact List.all_eq_true.1 hall c hname
  · exact Text.isSettled_of_mem_percentEncode hcode

theorem keyQuery_inj {keyId keyId' : String} (h : keyQuery keyId = keyQuery keyId') :
    keyId = keyId' :=
  Text.percentEncode_inj (String.toList_inj.1 (List.append_cancel_left h))

/-- No request is made for two different keys. -/
theorem keyRequest_inj {service : Endpoint} {keyId wrappedKey keyId' wrappedKey' : String}
    {request : Http.Request} (h : keyRequest service keyId wrappedKey = .ok request)
    (h' : keyRequest service keyId' wrappedKey' = .ok request) :
    keyId = keyId' ∧ wrappedKey = wrappedKey' := by
  obtain ⟨hurl, -, hbody⟩ := Http.Request.eq_of_build h
  obtain ⟨hurl', -, hbody'⟩ := Http.Request.eq_of_build h'
  obtain ⟨result, hresult⟩ :=
    Http.Url.normal_append (dropSlashes service.url ++ "/datakey/actions/decrypt")
  rw [unwrapAddress_eq, hresult _ fun _ => isSettled_of_mem_keyQuery] at hurl hurl'
  constructor
  · cases result with
    | error fault => cases hurl
    | ok front =>
      have hends := Except.ok.inj (hurl.trans hurl'.symm)
      rw [String.append_right_inj, String.ofList_inj] at hends
      exact keyQuery_inj (List.cons.inj hends).2
  · have hpieces := hbody.symm.trans hbody'
    exact Material.bytesOf_inj (Except.ok.inj (List.cons.inj hpieces).1)

/-- The exchanges since everything was last forgotten, the last one first. -/
def recentExchanges : List KeyVisit → List KeyExchange
  | [] => []
  | .forgot :: _ => []
  | .unwrapped _ _ exchanges _ :: earlier => exchanges.reverse ++ recentExchanges earlier

/-- A visit has made no requests but those for its own key. -/
def KeyVisit.Keeps (service : Endpoint) : KeyVisit → Prop
  | .unwrapped keyId wrappedKey exchanges _ =>
    ∀ exchange ∈ exchanges, keyRequest service keyId wrappedKey = .ok exchange.request
  | .forgot => True

section Visits

variable {service : Endpoint} {policy : RetryPolicy} {script : Nat → KeyAnswer}
  {keyId wrappedKey : String}

/-- The requests for a key are for this key. -/
theorem Unwraps.keyRequest_eq {before after : Online} {result : Option (Except Failure String)}
    (h : Unwraps service policy script keyId wrappedKey before result after) :
    ∀ exchange ∈ after.exchanges.drop before.exchanges.length,
      keyRequest service keyId wrappedKey = .ok exchange.request := by
  obtain ⟨hsame, -⟩ | ⟨-, request, made, hrequest, hexchanges, -⟩ := h.exchanges_cases
  · rw [hsame, List.drop_length]
    exact List.forall_mem_nil _
  · rw [hexchanges, List.drop_left]
    intro exchange hexchange
    obtain ⟨number, -, rfl⟩ := List.mem_map.1 hexchange
    exact hrequest

theorem KeyLog.keeps_ofUses (uses : List KeyUse) :
    ∀ visit ∈ (KeyLog.ofUses service policy script uses).visits, visit.Keeps service := by
  let holds (log : KeyLog) : Prop := ∀ visit ∈ log.visits, visit.Keeps service
  have huse (log : KeyLog) (use : KeyUse) (h : holds log) :
      holds (log.use service policy script use) := by
    cases use with
    | forget => exact List.forall_mem_cons.2 ⟨trivial, h⟩
    | unwrap keyId wrappedKey =>
      exact List.forall_mem_cons.2 ⟨(unwrapKey_unwraps _ _ _ _ _ _).keyRequest_eq, h⟩
  exact KeyLog.invariant (List.forall_mem_nil _) huse uses

open Classical in
/-- Whose requests they were need not be known, for it can be read off them. -/
theorem lastGiven?_eq {request : Http.Request} {visits : List KeyVisit}
    (hkeeps : ∀ visit ∈ visits, visit.Keeps service)
    (hrequest : keyRequest service keyId wrappedKey = .ok request) :
    lastGiven? keyId wrappedKey visits =
      ((recentExchanges visits).filter fun exchange => exchange.request = request).findSome?
        fun exchange => exchange.answer.given? := by
  induction visits with
  | nil => rfl
  | cons visit visits ih =>
    obtain ⟨hvisit, hvisits⟩ := List.forall_mem_cons.1 hkeeps
    cases visit with
    | forgot => rfl
    | unwrapped keyId' wrappedKey' exchanges result =>
      rw [lastGiven?, recentExchanges, List.filter_append, List.findSome?_append, ← ih hvisits]
      by_cases hpair : keyId' = keyId ∧ wrappedKey' = wrappedKey
      · obtain ⟨rfl, rfl⟩ := hpair
        have hsame : ∀ exchange ∈ exchanges.reverse, exchange.request = request :=
          fun exchange hexchange => Except.ok.inj
            ((hvisit exchange (List.mem_reverse.1 hexchange)).symm.trans hrequest)
        rw [if_pos ⟨rfl, rfl⟩, List.filter_eq_self.2 (by simpa using hsame)]
      · have hother : ∀ exchange ∈ exchanges.reverse, exchange.request ≠ request := by
          rintro exchange hexchange rfl
          exact hpair (keyRequest_inj (hvisit exchange (List.mem_reverse.1 hexchange)) hrequest)
        rw [if_neg hpair, List.filter_eq_nil_iff.2 (by simpa using hother), List.findSome?_nil,
          Option.none_or]

end Visits

open Classical in
/-- What is remembered for a key is what the last readable answer to a request for it has given, of
    all the exchanges since everything was last forgotten. -/
theorem recall?_eq_lastGiven (service : Endpoint) (policy : RetryPolicy)
    (script : Nat → KeyAnswer) (uses : List KeyUse) {keyId wrappedKey : String}
    {request : Http.Request} (hrequest : keyRequest service keyId wrappedKey = .ok request) :
    let log := KeyLog.ofUses service policy script uses
    log.online.recall? keyId wrappedKey =
      ((recentExchanges log.visits).filter fun exchange => exchange.request = request).findSome?
        fun exchange => exchange.answer.given? :=
  (KeyLog.faithful_ofUses uses keyId wrappedKey).trans
    (lastGiven?_eq (KeyLog.keeps_ofUses uses) hrequest)

open Classical in
/-- However a key service is used, and whatever it answers: what is remembered for a key is what the
    last answer to a request for it has given since everything was last forgotten; a key that is
    remembered costs no request, and any other is asked for until an answer settles the matter. A
    request is for one key only, and the key in a reply is its member `plaintextDataKey`. -/
theorem keyMemory_faithful (service : Endpoint) (policy : RetryPolicy) (script : Nat → KeyAnswer)
    (uses : List KeyUse) (keyId wrappedKey : String) :
    let log := KeyLog.ofUses service policy script uses
    log.online.recall? keyId wrappedKey = lastGiven? keyId wrappedKey log.visits ∧
      Unwraps service policy script keyId wrappedKey log.online
        (log.online.run script (unwrapKey service policy keyId wrappedKey)).1
        (log.online.run script (unwrapKey service policy keyId wrappedKey)).2 ∧
      (∀ request, keyRequest service keyId wrappedKey = .ok request →
        (∀ keyId' wrappedKey', keyRequest service keyId' wrappedKey' = .ok request →
          keyId' = keyId ∧ wrappedKey' = wrappedKey) ∧
        log.online.recall? keyId wrappedKey =
          ((recentExchanges log.visits).filter fun exchange =>
            exchange.request = request).findSome? fun exchange => exchange.answer.given?) ∧
      ∀ (reply : Http.Reply) (wrappingId dataKey : String), reply.status.isSuccess →
        reply.body = some (Json.object [("dataKeyEncryptionKeyId", .string wrappingId),
          ("plaintextDataKey", .string dataKey)]).text.toUTF8.toList →
        KeyAnswer.given? (.ok reply) = some dataKey := by
  refine ⟨KeyLog.faithful_ofUses uses keyId wrappedKey, unwrapKey_unwraps _ _ _ _ _ _, ?_, ?_⟩
  · exact fun request hrequest => ⟨fun _ _ h => keyRequest_inj h hrequest,
      recall?_eq_lastGiven service policy script uses hrequest⟩
  · exact fun reply wrappingId dataKey => KeyAnswer.given?_of_text

namespace Sample

/-- A key service that is reached. -/
def keyService : Endpoint := ⟨"http://dks", 1, 1⟩

/-- Three attempts, whose delays grow beyond all bounds after the first one. -/
def hurried : RetryPolicy := ⟨3, 0, .infinite false⟩

/-- The answers of a service that is out of order. -/
def outOfOrder : Nat → KeyAnswer := fun _ => .ok ⟨⟨500⟩, none⟩

end Sample

/-- A key service that is out of order is given up without a result before the attempts are used up,
    if the delay between two of them has no value. -/
theorem Sample.exists_unwrap_halts :
    ∃ (service : Endpoint) (policy : RetryPolicy) (script : Nat → KeyAnswer)
      (keyId wrappedKey : String),
      ¬ (keyId.isEmpty ∨ wrappedKey.isEmpty) ∧
      (keyRequest service keyId wrappedKey).isOk ∧
      (∀ number, (script number).Fails) ∧
      (Online.start.run script (unwrapKey service policy keyId wrappedKey)).1 = none ∧
      (Online.start.run script (unwrapKey service policy keyId wrappedKey)).2.exchanges.length = 2 ∧
      policy.attempts = 3 := by
  exact ⟨keyService, hurried, outOfOrder, "k", "w", by decide, by decide +kernel,
    fun _ => ⟨rfl, rfl⟩, by decide +kernel, by decide +kernel, rfl⟩

end Services

end Courier
