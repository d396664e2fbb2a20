import Courier.Proofs.Json.Record
import Courier.Proofs.Program.Rule
import Courier.Services.Keys
import Courier.Services.Offline

/-!
The key service as it answers. One key is unwrapped by requests for it and nothing else, one after
another, until an answer settles the matter, the attempts are used up, or a delay is needed that has
no value; `Asked` says which of these it is.
-/

namespace Courier.Services

open Program

/-- The data key is read from the member of its name. -/
theorem dataKey?_text (wrappingId dataKey : String) :
    dataKey? (Json.object [("dataKeyEncryptionKeyId", .string wrappingId),
      ("plaintextDataKey", .string dataKey)]).text.toUTF8.toList = some dataKey := by
  have hnames : ["dataKeyEncryptionKeyId", "plaintextDataKey"].Nodup := by decide
  have hread := Json.readRecord?_text ("dataKeyEncryptionKeyId", wrappingId)
    [("plaintextDataKey", dataKey)] hnames
  rw [dataKey?]
  change (Json.readRecord? _ _).bind _ = _
  exact congrArg (fun read => Option.bind read _) hread

/-- A reply may list the texts without their names as well. -/
example : dataKey? "[\"k\", \"p\"]".toUTF8.toList = some "p" := by decide +kernel

/-- What the key service answers to a request, or why there is no answer. -/
abbrev KeyAnswer := Except Http.Trouble Http.Reply

namespace KeyAnswer

/-- The data key of an answer that can be read. -/
def given? : KeyAnswer → Option String
  | .ok reply => if reply.status.isSuccess then reply.body.bind dataKey? else none
  | .error _ => none

/-- The service refuses the wrapped key. -/
def isRefusal : KeyAnswer → Bool
  | .ok reply => reply.status == .badRequest
  | .error _ => false

/-- The answer settles nothing. -/
def Fails (answer : KeyAnswer) : Prop := answer.given? = none ∧ answer.isRefusal = false

/-- What an answer means to whoever has asked for a key. -/
def read (keyId : String) : KeyAnswer → Except Failure String
  | .ok reply => readUnwrapped keyId reply
  | .error trouble => .error (keyServiceSilent trouble)

end KeyAnswer

/-- The failure of a key that the service has refused. -/
def keyRefusal (keyId : String) : Failure := ⟨.keyRejected, .keyRefused keyId .badRequest⟩

namespace KeyAnswer

variable {answer : KeyAnswer} {keyId : String}

theorem given?_of_text {reply : Http.Reply} {wrappingId dataKey : String}
    (hstatus : reply.status.isSuccess)
    (hbody : reply.body = some (Json.object [("dataKeyEncryptionKeyId", .string wrappingId),
      ("plaintextDataKey", .string dataKey)]).text.toUTF8.toList) :
    KeyAnswer.given? (.ok reply) = some dataKey := by
  rw [given?, if_pos hstatus, hbody]
  exact dataKey?_text wrappingId dataKey

theorem read_of_given {dataKey : String} (h : answer.given? = some dataKey) :
    answer.read keyId = .ok dataKey := by
  cases answer with
  | error trouble => cases h
  | ok reply =>
    by_cases hsuccess : reply.status.isSuccess
    · simp only [given?, hsuccess, if_true] at h
      simp only [read, readUnwrapped, hsuccess, if_true, h]
    · simp [given?, hsuccess] at h

theorem given?_of_refusal (h : answer.isRefusal) : answer.given? = none := by
  cases answer with
  | error trouble => cases h
  | ok reply =>
    have hstatus : reply.status = .badRequest := by simpa [isRefusal] using h
    rw [given?, hstatus]
    rfl

theorem read_of_refusal (h : answer.isRefusal) : answer.read keyId = .error (keyRefusal keyId) := by
  cases answer with
  | error trouble => cases h
  | ok reply =>
    have hstatus : reply.status = .badRequest := by simpa [isRefusal] using h
    rw [read, readUnwrapped, hstatus]
    rfl

theorem read_of_fails (keyId : String) (h : answer.Fails) :
    ∃ failure, answer.read keyId = .error failure ∧ failure.kind = .keyServiceDown := by
  obtain ⟨hgiven, hrefusal⟩ := h
  cases answer with
  | error trouble => exact ⟨_, rfl, rfl⟩
  | ok reply =>
    have hstatus : reply.status ≠ .badRequest := by simpa [isRefusal] using hrefusal
    by_cases hsuccess : reply.status.isSuccess
    · simp only [given?, hsuccess, if_true] at hgiven
      simp only [read, readUnwrapped, hsuccess, if_true, hgiven]
      exact ⟨_, rfl, rfl⟩
    · simp only [read, readUnwrapped, hsuccess, hstatus]
      exact ⟨_, rfl, rfl⟩

theorem settles_or_fails (answer : KeyAnswer) :
    (∃ dataKey, answer.given? = some dataKey) ∨ answer.isRefusal ∨ answer.Fails := by
  cases hgiven : answer.given? with
  | some dataKey => exact .inl ⟨dataKey, rfl⟩
  | none =>
    cases hrefusal : answer.isRefusal with
    | true => exact .inr (.inl rfl)
    | false => exact .inr (.inr ⟨hgiven, hrefusal⟩)

end KeyAnswer

/-- A request to the key service, and what has come back. -/
structure KeyExchange where
  request : Http.Request
  answer : KeyAnswer

/-- A machine that reaches the key service and no other. -/
structure Online where
  machine : Offline
  /-- The exchanges with the key service, in order. -/
  exchanges : List KeyExchange

namespace Online

def start : Online := ⟨.start, []⟩

/-- What there is after a request with its answer. -/
def exchanged (state : Online) (request : Http.Request) (answer : KeyAnswer) : Online :=
  { state with exchanges := state.exchanges ++ [⟨request, answer⟩] }

/-- A request is answered as the script says for its number. -/
def answer (script : Nat → KeyAnswer) (step : Step) (state : Online) : step.Answer × Online :=
  match step with
  | .post request =>
    let given := script state.exchanges.length
    (given, state.exchanged request given)
  | step => (state.machine.answer step, { state with machine := state.machine.after step })

def pass (nanos : Nat) (state : Online) : Online :=
  { state with machine := { state.machine with clock := state.machine.clock + nanos } }

/-- Runs a procedure. There is no result if it needs a delay that has no value. -/
def run {α : Type} (script : Nat → KeyAnswer) (procedure : Procedure α) (state : Online) :
    Option (Except Failure α) × Online :=
  Program.run (answer script) pass procedure.run state

/-- As many equal requests as are made, from one number on, and their answers. -/
def asking (script : Nat → KeyAnswer) (request : Http.Request) (first made : Nat) :
    List KeyExchange :=
  (List.range' first made).map fun number => ⟨request, script number⟩

end Online

/-- The request for a key. -/
def keyRequest (service : Endpoint) (keyId wrappedKey : String) :
    Except Http.Trouble Http.Request :=
  Http.Request.build (unwrapAddress service keyId) [("content-type", "text/plain")]
    [.ok wrappedKey.toUTF8.toList]

/-- The answer to a request settles nothing, and the delay after it has a value. -/
def Passes (delays : Nat → Option Nat) (answers : Nat → KeyAnswer) (number : Nat) : Prop :=
  (answers number).Fails ∧ (delays number).isSome

/-- What comes of a key after a number of requests, by the answers to them and the delays after
    them; `most` bounds the requests. -/
inductive Asked (keyId : String) (delays : Nat → Option Nat) (answers : Nat → KeyAnswer)
    (most : Nat) : Nat → Option (Except Failure String) → Prop
  /-- The key is in the first answer that settles the matter. -/
  | given {before : Nat} {dataKey : String} (hmost : before < most)
    (hbefore : ∀ i < before, Passes delays answers i)
    (hgiven : (answers before).given? = some dataKey) :
    Asked keyId delays answers most (before + 1) (some (.ok dataKey))
  /-- The key is refused by the first answer that settles the matter. -/
  | refused {before : Nat} (hmost : before < most) (hbefore : ∀ i < before, Passes delays answers i)
    (hrefused : (answers before).isRefusal) :
    Asked keyId delays answers most (before + 1) (some (.error (keyRefusal keyId)))
  /-- No answer settles the matter; the last failure is returned. -/
  | exhausted {before : Nat} {failure : Failure} (hmost : before + 1 = most)
    (hbefore : ∀ i < before, Passes delays answers i) (hfails : (answers before).Fails)
    (hkind : failure.kind = .keyServiceDown)
    (hlast : (answers before).read keyId = .error failure) :
    Asked keyId delays answers most (before + 1) (some (.error failure))
  /-- The next request needs a delay that has no value. -/
  | halted {before : Nat} (hmost : before + 1 < most)
    (hbefore : ∀ i < before, Passes delays answers i) (hfails : (answers before).Fails)
    (hdelay : delays before = none) : Asked keyId delays answers most (before + 1) none

namespace Asked

variable {keyId : String} {delays : Nat → Option Nat} {answers : Nat → KeyAnswer} {most made : Nat}
  {result : Option (Except Failure String)}

theorem given_first {dataKey : String} (h : (answers 0).given? = some dataKey) :
    Asked keyId delays answers (most + 1) 1 (some (.ok dataKey)) :=
  .given most.succ_pos (nofun) h

theorem refused_first (h : (answers 0).isRefusal) :
    Asked keyId delays answers (most + 1) 1 (some (.error (keyRefusal keyId))) :=
  .refused most.succ_pos (nofun) h

/-- A request that settles nothing, and what comes of the next ones. -/
theorem cons (hfirst : Passes delays answers 0)
    (h : Asked keyId (fun i => delays (i + 1)) (fun i => answers (i + 1)) most made result) :
    Asked keyId delays answers (most + 1) (made + 1) result := by
  have hshift {before : Nat}
      (hrest : ∀ i < before, Passes (fun i => delays (i + 1)) (fun i => answers (i + 1)) i)
      (i : Nat) (hi : i < before + 1) : Passes delays answers i := by
    cases i with
    | zero => exact hfirst
    | succ i => exact hrest i (by omega)
  cases h with
  | given hmost hbefore hgiven => exact .given (by omega) (hshift hbefore) hgiven
  | refused hmost hbefore hrefused => exact .refused (by omega) (hshift hbefore) hrefused
  | exhausted hmost hbefore hfails hkind hlast =>
    exact .exhausted (by omega) (hshift hbefore) hfails hkind hlast
  | halted hmost hbefore hfails hdelay =>
    exact .halted (by omega) (hshift hbefore) hfails hdelay

/-- Only a delay without a value is a reason for no result. -/
theorem isSome (h : Asked keyId delays answers most made result)
    (hdelays : ∀ i, i + 1 < most → (delays i).isSome) : result.isSome := by
  cases h with
  | given | refused | exhausted => rfl
  | halted hmost _ _ hdelay =>
    have hsome := hdelays _ hmost
    rw [hdelay] at hsome
    cases hsome

/-- The key that is obtained is the only one in all the answers. -/
theorem findSome?_asking {script : Nat → KeyAnswer} {first : Nat}
    (h : Asked keyId delays (fun i => script (first + i)) most made result)
    (request : Http.Request) :
    (Online.asking script request first made).reverse.findSome?
        (fun exchange => exchange.answer.given?) =
      match result with
      | some (.ok dataKey) => some dataKey
      | _ => none := by
  have hlast (before : Nat) : (Online.asking script request first (before + 1)).reverse =
      ⟨request, script (first + before)⟩ ::
        (Online.asking script request first before).reverse := by
    simp [Online.asking, List.range'_concat]
  have hnone {before : Nat}
      (hbefore : ∀ i < before, Passes delays (fun i => script (first + i)) i) :
      (Online.asking script request first before).reverse.findSome?
        (fun exchange => exchange.answer.given?) = none := by
    simp only [List.findSome?_eq_none_iff, List.mem_reverse, Online.asking, List.mem_map,
      List.mem_range'_1]
    rintro _ ⟨number, ⟨hfirst, hnumber⟩, rfl⟩
    obtain ⟨i, rfl⟩ := Nat.exists_eq_add_of_le hfirst
    exact (hbefore i (by omega)).1.1
  cases h with
  | given hmost hbefore hgiven => rw [hlast, List.findSome?_cons, hgiven]
  | refused hmost hbefore hrefused =>
    rw [hlast, List.findSome?_cons, KeyAnswer.given?_of_refusal hrefused]
    exact hnone hbefore
  | exhausted hmost hbefore hfails | halted hmost hbefore hfails =>
    rw [hlast, List.findSome?_cons, hfails.1]
    exact hnone hbefore

end Asked

section Run

variable {service : Endpoint} {policy : RetryPolicy} {script : Nat → KeyAnswer}
  {keyId wrappedKey : String} {request : Http.Request}

/-- One attempt at a key is one request. -/
theorem requestKey_eq (h : keyRequest service keyId wrappedKey = .ok request) :
    (requestKey service keyId wrappedKey).run =
      .ask (.post request) fun answer => .done (KeyAnswer.read keyId answer) := by
  unfold keyRequest at h
  unfold requestKey
  rw [h]
  refine congrArg (Program.ask _) (funext fun answer => ?_)
  cases answer <;> rfl

theorem retryIf_requestKey_eq :
    (retryIf policy Failure.isKeyServiceRetryable (requestKey service keyId wrappedKey)).run =
      retryFrom policy.delayAfter? Failure.isKeyServiceRetryable
        (requestKey service keyId wrappedKey).run (policy.attempts - 1) 1 := by
  rw [ExceptT.run, retryIf, ExceptT.run]

theorem run_requestKey (h : keyRequest service keyId wrappedKey = .ok request) (state : Online) :
    Program.run (Online.answer script) Online.pass (requestKey service keyId wrappedKey).run state =
      (some ((script state.exchanges.length).read keyId),
        state.exchanged request (script state.exchanges.length)) := by
  rw [requestKey_eq h]
  rfl

/-- A key is asked for again and again, always by the same request. -/
theorem run_retryFrom (script : Nat → KeyAnswer)
    (h : keyRequest service keyId wrappedKey = .ok request) (delay : Nat → Option Nat)
    (left attempt : Nat) (state : Online) :
    ∃ made result after,
      Program.run (Online.answer script) Online.pass (retryFrom delay Failure.isKeyServiceRetryable
        (requestKey service keyId wrappedKey).run left attempt) state = (result, after) ∧
      after.machine.keys = state.machine.keys ∧
      after.exchanges =
        state.exchanges ++ Online.asking script request state.exchanges.length made ∧
      Asked keyId (fun i => delay (attempt + i)) (fun i => script (state.exchanges.length + i))
        (left + 1) made result := by
  induction left generalizing attempt state with
  | zero =>
    rw [retryFrom, run_requestKey h]
    refine ⟨1, _, _, rfl, rfl, rfl, ?_⟩
    obtain ⟨dataKey, hgiven⟩ | hrefused | hfails :=
      (script state.exchanges.length).settles_or_fails
    · rw [KeyAnswer.read_of_given hgiven]
      exact .given_first hgiven
    · rw [KeyAnswer.read_of_refusal hrefused]
      exact .refused_first hrefused
    · obtain ⟨failure, hread, hkind⟩ := KeyAnswer.read_of_fails keyId hfails
      rw [hread]
      exact .exhausted rfl (nofun) hfails hkind hread
  | succ left ih =>
    rw [retryFrom, run_bind_of_eq (run_requestKey h state)]
    obtain ⟨dataKey, hgiven⟩ | hrefused | hfails :=
      (script state.exchanges.length).settles_or_fails
    · rw [KeyAnswer.read_of_given hgiven]
      exact ⟨1, _, _, rfl, rfl, rfl, .given_first hgiven⟩
    · rw [KeyAnswer.read_of_refusal hrefused]
      exact ⟨1, _, _, rfl, rfl, rfl, .refused_first hrefused⟩
    · obtain ⟨failure, hread, hkind⟩ := KeyAnswer.read_of_fails keyId hfails
      have hagain : failure.isKeyServiceRetryable = true :=
        congrArg FailureKind.isKeyServiceRetryable hkind
      rw [hread]
      simp only [hagain, if_true]
      cases hdelay : delay attempt with
      | none =>
        exact ⟨1, _, _, rfl, rfl, rfl,
          .halted (by omega) (nofun) hfails hdelay⟩
      | some nanos =>
        obtain ⟨made, result, after, hrun, hkeys, hexchanges, hasked⟩ :=
          ih (attempt + 1)
            ((state.exchanged request (script state.exchanges.length)).pass nanos)
        have hpasses : Passes (fun i => delay (attempt + i))
            (fun i => script (state.exchanges.length + i)) 0 := ⟨hfails, by simp [hdelay]⟩
        refine ⟨made + 1, result, after, hrun, hkeys, ?_, .cons hpasses ?_⟩
        · rw [hexchanges]
          simp [Online.exchanged, Online.pass, Online.asking, List.range'_succ]
        · have hshift (n i : Nat) : n + 1 + i = n + (i + 1) := by omega
          simpa only [Online.exchanged, Online.pass, List.length_append, List.length_singleton,
            hshift] using hasked

/-- Without a request that can be written down, every attempt fails at once. -/
theorem run_retryFrom_unwritable (script : Nat → KeyAnswer) {trouble : Http.Trouble}
    (h : keyRequest service keyId wrappedKey = .error trouble) (delay : Nat → Option Nat)
    (left attempt : Nat) (state : Online) :
    ∃ result after,
      Program.run (Online.answer script) Online.pass (retryFrom delay Failure.isKeyServiceRetryable
        (requestKey service keyId wrappedKey).run left attempt) state = (result, after) ∧
      after.machine.keys = state.machine.keys ∧ after.exchanges = state.exchanges ∧
      (result = some (.error (keyServiceSilent trouble)) ∨
        result = none ∧ ∃ i < left, delay (attempt + i) = none) := by
  have hrequest : (requestKey service keyId wrappedKey).run =
      (.done (.error (keyServiceSilent trouble)) :
        Program Step.Answer (Except Failure String)) := by
    unfold keyRequest at h
    unfold requestKey
    rw [h]
    rfl
  rw [hrequest]
  induction left generalizing attempt state with
  | zero => exact ⟨_, _, rfl, rfl, rfl, .inl rfl⟩
  | succ left ih =>
    have hagain : (keyServiceSilent trouble).isKeyServiceRetryable = true := rfl
    rw [retryFrom, Program.bind]
    simp only [hagain, if_true]
    cases hdelay : delay attempt with
    | none => exact ⟨_, _, rfl, rfl, rfl, .inr ⟨rfl, 0, left.succ_pos, hdelay⟩⟩
    | some nanos =>
      obtain ⟨result, after, hrun, hkeys, hexchanges, hresult⟩ :=
        ih (attempt + 1) (state.pass nanos)
      refine ⟨result, after, hrun, hkeys, hexchanges, hresult.imp_right ?_⟩
      rintro ⟨hnone, i, hi, hdelay⟩
      exact ⟨hnone, i + 1, by omega, (congrArg delay (by omega)).trans hdelay⟩

end Run

end Courier.Services
