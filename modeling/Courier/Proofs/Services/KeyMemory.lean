import Courier.Proofs.Item.Account
import Courier.Proofs.Services.KeyService

/-!
The memory of unwrapped keys. Keys are unwrapped one after another, and now and then everything is
forgotten; what is remembered is what the key service has answered since then.
-/

namespace Courier.Services

open Program

/-- What is done with the key service. -/
inductive KeyUse where
  | unwrap (keyId wrappedKey : String)
  | forget

/-- A use and what has come of it. -/
inductive KeyVisit where
  | unwrapped (keyId wrappedKey : String) (exchanges : List KeyExchange)
    (result : Option (Except Failure String))
  | forgot

/-- The uses so far, the last one first, and what they have left behind. -/
structure KeyLog where
  online : Online
  visits : List KeyVisit

/-- The key in the last answer to a request for it that could be read, if nothing has been forgotten
    since then. -/
def lastGiven? (keyId wrappedKey : String) : List KeyVisit → Option String
  | [] => none
  | .forgot :: _ => none
  | .unwrapped keyId' wrappedKey' exchanges _ :: earlier =>
    if keyId' = keyId ∧ wrappedKey' = wrappedKey then
      exchanges.reverse.findSome? (fun exchange => exchange.answer.given?)
        |>.or (lastGiven? keyId wrappedKey earlier)
    else lastGiven? keyId wrappedKey earlier

section Uses

variable (service : Endpoint) (policy : RetryPolicy) (script : Nat → KeyAnswer)

def KeyLog.use (log : KeyLog) : KeyUse → KeyLog
  | .unwrap keyId wrappedKey =>
    let (result, after) := log.online.run script (unwrapKey service policy keyId wrappedKey)
    let exchanges := after.exchanges.drop log.online.exchanges.length
    ⟨after, .unwrapped keyId wrappedKey exchanges result :: log.visits⟩
  | .forget => ⟨{ log.online with machine := log.online.machine.forget }, .forgot :: log.visits⟩

/-- What comes of uses, one after another. -/
def KeyLog.ofUses (uses : List KeyUse) : KeyLog :=
  uses.foldl (KeyLog.use service policy script) ⟨.start, []⟩

/-- What is remembered for a key. -/
def Online.recall? (state : Online) (keyId wrappedKey : String) : Option String :=
  state.machine.keys.lookup (wrappedKey, keyId)

def Online.remember (state : Online) (keyId wrappedKey dataKey : String) : Online :=
  { state with machine := state.machine.after (.rememberKey keyId wrappedKey dataKey) }

/-- What comes of unwrapping a key. -/
structure Unwraps (keyId wrappedKey : String) (before : Online)
    (result : Option (Except Failure String)) (after : Online) : Prop where
  /-- A missing part is refused for good, without a request. -/
  empty : keyId.isEmpty ∨ wrappedKey.isEmpty → after = before ∧
    ∃ failure, result = some (.error failure) ∧ failure.kind = .keyRejected ∧ failure.isPermanent
  /-- A key that is remembered is returned without a request. -/
  known : ¬ (keyId.isEmpty ∨ wrappedKey.isEmpty) → ∀ dataKey,
    before.recall? keyId wrappedKey = some dataKey →
      after = before ∧ result = some (.ok dataKey)
  /-- Any other key is asked for, by requests for it alone. -/
  asked : ¬ (keyId.isEmpty ∨ wrappedKey.isEmpty) → before.recall? keyId wrappedKey = none →
    ∀ request, keyRequest service keyId wrappedKey = .ok request → ∃ made,
      after.exchanges =
        before.exchanges ++ Online.asking script request before.exchanges.length made ∧
      Asked keyId (fun i => policy.delayAfter? (1 + i))
        (fun i => script (before.exchanges.length + i)) policy.attempts made result
  /-- A request that cannot be written down is not sent. -/
  unwritable : ¬ (keyId.isEmpty ∨ wrappedKey.isEmpty) → before.recall? keyId wrappedKey = none →
    ∀ trouble, keyRequest service keyId wrappedKey = .error trouble →
      after.exchanges = before.exchanges ∧
        (result = some (.error (keyServiceSilent trouble)) ∨ result = none)
  /-- A key that has been unwrapped is remembered. -/
  gained : ∀ dataKey, result = some (.ok dataKey) → ∀ keyId' wrappedKey',
    after.recall? keyId' wrappedKey' =
      if keyId' = keyId ∧ wrappedKey' = wrappedKey then some dataKey
      else before.recall? keyId' wrappedKey'
  /-- Nothing else is remembered or forgotten. -/
  kept : (∀ dataKey, result ≠ some (.ok dataKey)) → after.machine.keys = before.machine.keys
  /-- There is a result if every delay that may be needed has a value. -/
  ends : policy.DelaysDefined → result.isSome

end Uses

section Run

variable {service : Endpoint} {policy : RetryPolicy} {script : Nat → KeyAnswer}
  {keyId wrappedKey : String}

theorem run_unwrapKey_empty (h : keyId.isEmpty ∨ wrappedKey.isEmpty) (state : Online) :
    state.run script (unwrapKey service policy keyId wrappedKey) =
      (some (.error ⟨.keyRejected, .emptyKeyPart⟩), state) := by
  unfold Online.run unwrapKey
  simp only [h, if_true]
  rfl

/-- What is remembered is looked up first, which leaves everything as it is. -/
theorem run_unwrapKey (h : ¬ (keyId.isEmpty ∨ wrappedKey.isEmpty)) (state : Online) :
    state.run script (unwrapKey service policy keyId wrappedKey) =
      match state.recall? keyId wrappedKey with
      | some dataKey => (some (.ok dataKey), state)
      | none =>
        match state.run script (retryIf policy Failure.isKeyServiceRetryable
          (requestKey service keyId wrappedKey)) with
        | (some (.ok dataKey), after) =>
          (some (.ok dataKey), after.remember keyId wrappedKey dataKey)
        | (some (.error failure), after) => (some (.error failure), after)
        | (none, after) => (none, after) := by
  have hrecall : Program.run (Online.answer script) Online.pass
      (ExceptT.lift (Step.recallKey keyId wrappedKey).ask : Procedure (Option String)).run state =
        (some (.ok (state.recall? keyId wrappedKey)), state) := rfl
  unfold Online.run unwrapKey
  simp only [h, if_false]
  rw [Program.run_andThen, hrecall]
  cases state.recall? keyId wrappedKey with
  | some dataKey => rfl
  | none =>
    simp only [Program.run_andThen]
    rcases Program.run (Online.answer script) Online.pass (retryIf policy
      Failure.isKeyServiceRetryable (requestKey service keyId wrappedKey)).run state with
        ⟨_ | _ | _, after⟩ <;> rfl

theorem recall?_remember (state : Online) (dataKey keyId' wrappedKey' : String) :
    (state.remember keyId wrappedKey dataKey).recall? keyId' wrappedKey' =
      if keyId' = keyId ∧ wrappedKey' = wrappedKey then some dataKey
      else state.recall? keyId' wrappedKey' := by
  simp only [Online.recall?, Online.remember, Offline.after, List.lookup_cons]
  by_cases hpair : keyId' = keyId ∧ wrappedKey' = wrappedKey
  · simp [hpair]
  · have hne : ((wrappedKey', keyId') == (wrappedKey, keyId)) = false := by
      simpa [and_comm] using hpair
    simp only [hne, hpair, if_false]

theorem recall?_of_keys {state state' : Online} (h : state.machine.keys = state'.machine.keys) :
    state.recall? keyId wrappedKey = state'.recall? keyId wrappedKey := by
  rw [Online.recall?, Online.recall?, h]

/-- What comes of the requests decides what comes of the key. -/
theorem Unwraps.of_requests (h : ¬ (keyId.isEmpty ∨ wrappedKey.isEmpty)) {before : Online}
    (hunknown : before.recall? keyId wrappedKey = none) {result : Option (Except Failure String)}
    {middle : Online} (hkeys : middle.machine.keys = before.machine.keys)
    (hasked : ∀ request, keyRequest service keyId wrappedKey = .ok request → ∃ made,
      middle.exchanges =
        before.exchanges ++ Online.asking script request before.exchanges.length made ∧
      Asked keyId (fun i => policy.delayAfter? (1 + i))
        (fun i => script (before.exchanges.length + i)) policy.attempts made result)
    (hunwritable : ∀ trouble, keyRequest service keyId wrappedKey = .error trouble →
      middle.exchanges = before.exchanges ∧
        (result = some (.error (keyServiceSilent trouble)) ∨ result = none))
    (hends : policy.DelaysDefined → result.isSome) :
    Unwraps service policy script keyId wrappedKey before result
      (match result with
      | some (.ok dataKey) => middle.remember keyId wrappedKey dataKey
      | _ => middle) where
  empty hempty := absurd hempty h
  known _ dataKey hknown := nomatch hunknown.symm.trans hknown
  asked _ _ request hrequest := by
    obtain ⟨made, hexchanges, hmade⟩ := hasked request hrequest
    refine ⟨made, ?_, hmade⟩
    rcases result with _ | _ | dataKey <;> exact hexchanges
  unwritable _ _ trouble hrequest := by
    obtain ⟨hexchanges, hresult⟩ := hunwritable trouble hrequest
    refine ⟨?_, hresult⟩
    rcases result with _ | _ | dataKey <;> exact hexchanges
  gained dataKey hresult keyId' wrappedKey' := by
    subst hresult
    rw [recall?_remember, recall?_of_keys hkeys]
  kept hfailed := by
    rcases result with _ | _ | dataKey
    · exact hkeys
    · exact hkeys
    · exact absurd rfl (hfailed dataKey)
  ends := hends

/-- What comes of the requests for a key. -/
theorem exists_run_requests (service : Endpoint) (policy : RetryPolicy) (script : Nat → KeyAnswer)
    (keyId wrappedKey : String) (before : Online) :
    ∃ result middle,
      before.run script (retryIf policy Failure.isKeyServiceRetryable
        (requestKey service keyId wrappedKey)) = (result, middle) ∧
      middle.machine.keys = before.machine.keys ∧
      (∀ request, keyRequest service keyId wrappedKey = .ok request → ∃ made,
        middle.exchanges =
          before.exchanges ++ Online.asking script request before.exchanges.length made ∧
        Asked keyId (fun i => policy.delayAfter? (1 + i))
          (fun i => script (before.exchanges.length + i)) policy.attempts made result) ∧
      (∀ trouble, keyRequest service keyId wrappedKey = .error trouble →
        middle.exchanges = before.exchanges ∧
          (result = some (.error (keyServiceSilent trouble)) ∨ result = none)) ∧
      (policy.DelaysDefined → result.isSome) := by
  have hattempts : policy.attempts - 1 + 1 = policy.attempts :=
    Nat.sub_add_cancel (Nat.le_max_right _ _)
  unfold Online.run
  rw [retryIf_requestKey_eq]
  cases hrequest : keyRequest service keyId wrappedKey with
  | error trouble =>
    obtain ⟨result, middle, hrun, hkeys, hexchanges, hresult⟩ :=
      run_retryFrom_unwritable script hrequest policy.delayAfter?
        (policy.attempts - 1) 1 before
    refine ⟨result, middle, hrun, hkeys, nofun, ?_, fun hdefined => ?_⟩
    · rintro _ ⟨⟩
      exact ⟨hexchanges, hresult.imp_right And.left⟩
    · obtain rfl | ⟨-, i, hi, hdelay⟩ := hresult
      · rfl
      · have hsome := hdefined (1 + i) (by omega) (by omega)
        rw [hdelay] at hsome
        cases hsome
  | ok request =>
    obtain ⟨made, result, middle, hrun, hkeys, hexchanges, hasked⟩ :=
      run_retryFrom script hrequest policy.delayAfter? (policy.attempts - 1) 1 before
    rw [hattempts] at hasked
    refine ⟨result, middle, hrun, hkeys, ?_, nofun, fun hdefined => ?_⟩
    · rintro _ ⟨⟩
      exact ⟨made, hexchanges, hasked⟩
    · exact hasked.isSome fun i hi => hdefined (1 + i) (by omega) (by omega)

/-- What comes of unwrapping a key, whatever is remembered and whatever the service answers. -/
theorem unwrapKey_unwraps (service : Endpoint) (policy : RetryPolicy) (script : Nat → KeyAnswer)
    (keyId wrappedKey : String) (before : Online) :
    Unwraps service policy script keyId wrappedKey before
      (before.run script (unwrapKey service policy keyId wrappedKey)).1
      (before.run script (unwrapKey service policy keyId wrappedKey)).2 := by
  by_cases h : keyId.isEmpty ∨ wrappedKey.isEmpty
  · rw [run_unwrapKey_empty h]
    exact {
      empty := fun _ => ⟨rfl, _, rfl, rfl, rfl⟩
      known := fun hfull => absurd h hfull
      asked := fun hfull => absurd h hfull
      unwritable := fun hfull => absurd h hfull
      gained := nofun
      kept := fun _ => rfl
      ends := fun _ => rfl }
  rw [run_unwrapKey h]
  cases hrecall : before.recall? keyId wrappedKey with
  | some dataKey =>
    change Unwraps service policy script keyId wrappedKey before (some (.ok dataKey)) before
    exact {
      empty := fun hempty => absurd hempty h
      known := by
        rintro - other hother
        obtain rfl : dataKey = other := Option.some.inj (hrecall.symm.trans hother)
        exact ⟨rfl, rfl⟩
      asked := fun _ hnone => nomatch hrecall.symm.trans hnone
      unwritable := fun _ hnone => nomatch hrecall.symm.trans hnone
      gained := by
        rintro _ ⟨⟩ keyId' wrappedKey'
        split
        · next hpair => rw [hpair.1, hpair.2, hrecall]
        · rfl
      kept := fun hfailed => absurd rfl (hfailed dataKey)
      ends := fun _ => rfl }
  | none =>
    obtain ⟨result, middle, hrun, hkeys, hasked, hunwritable, hends⟩ :=
      exists_run_requests service policy script keyId wrappedKey before
    have hunwraps := Unwraps.of_requests h hrecall hkeys hasked hunwritable hends
    rw [hrun]
    rcases result with _ | _ | dataKey <;> exact hunwraps

/-- A key is asked for, or nothing happens that concerns it. -/
theorem Unwraps.exchanges_cases {before after : Online} {result : Option (Except Failure String)}
    (h : Unwraps service policy script keyId wrappedKey before result after) :
    (after.exchanges = before.exchanges ∧
      after.recall? keyId wrappedKey = before.recall? keyId wrappedKey) ∨
    before.recall? keyId wrappedKey = none ∧ ∃ request made,
      keyRequest service keyId wrappedKey = .ok request ∧
      after.exchanges =
        before.exchanges ++ Online.asking script request before.exchanges.length made ∧
      Asked keyId (fun i => policy.delayAfter? (1 + i))
        (fun i => script (before.exchanges.length + i)) policy.attempts made result := by
  by_cases hempty : keyId.isEmpty ∨ wrappedKey.isEmpty
  · obtain ⟨rfl, -⟩ := h.empty hempty
    exact .inl ⟨rfl, rfl⟩
  cases hrecall : before.recall? keyId wrappedKey with
  | some dataKey =>
    obtain ⟨rfl, -⟩ := h.known hempty dataKey hrecall
    exact .inl ⟨rfl, hrecall⟩
  | none =>
    cases hrequest : keyRequest service keyId wrappedKey with
    | error trouble =>
      obtain ⟨hexchanges, hresult⟩ := h.unwritable hempty hrecall trouble hrequest
      have hfailed : ∀ dataKey, result ≠ some (.ok dataKey) := by
        obtain rfl | rfl := hresult <;> nofun
      exact .inl ⟨hexchanges, (recall?_of_keys (h.kept hfailed)).trans hrecall⟩
    | ok request =>
      obtain ⟨made, hexchanges, hasked⟩ := h.asked hempty hrecall request hrequest
      exact .inr ⟨rfl, request, made, rfl, hexchanges, hasked⟩

end Run

namespace KeyLog

/-- What is remembered is what has been answered last. -/
def Faithful (log : KeyLog) : Prop :=
  ∀ keyId wrappedKey, log.online.recall? keyId wrappedKey = lastGiven? keyId wrappedKey log.visits

variable {service : Endpoint} {policy : RetryPolicy} {script : Nat → KeyAnswer}

/-- The key that is found in the answers of a use, if there is one, is remembered from then on. -/
theorem findSome?_exchanges {keyId wrappedKey : String} {before after : Online}
    {result : Option (Except Failure String)}
    (h : Unwraps service policy script keyId wrappedKey before result after) :
    after.recall? keyId wrappedKey =
      ((after.exchanges.drop before.exchanges.length).reverse.findSome? fun exchange =>
        exchange.answer.given?).or (before.recall? keyId wrappedKey) := by
  obtain ⟨hsame, hrecall⟩ | ⟨hrecall, request, made, -, hexchanges, hasked⟩ := h.exchanges_cases
  · rw [hsame, List.drop_length, hrecall]
    rfl
  · rw [hrecall, Option.or_none, hexchanges, List.drop_left, hasked.findSome?_asking]
    rcases result with _ | _ | dataKey
    · rw [recall?_of_keys (h.kept nofun), hrecall]
    · rw [recall?_of_keys (h.kept nofun), hrecall]
    · rw [h.gained dataKey rfl, if_pos ⟨rfl, rfl⟩]

theorem recall?_of_ne {keyId wrappedKey keyId' wrappedKey' : String} {before after : Online}
    {result : Option (Except Failure String)}
    (h : Unwraps service policy script keyId wrappedKey before result after)
    (hne : ¬ (keyId = keyId' ∧ wrappedKey = wrappedKey')) :
    after.recall? keyId' wrappedKey' = before.recall? keyId' wrappedKey' := by
  rcases result with _ | _ | dataKey
  · exact recall?_of_keys (h.kept nofun)
  · exact recall?_of_keys (h.kept nofun)
  · rw [h.gained dataKey rfl, if_neg fun hpair => hne ⟨hpair.1.symm, hpair.2.symm⟩]

theorem Faithful.use {log : KeyLog} (h : log.Faithful) (use : KeyUse) :
    (log.use service policy script use).Faithful := by
  intro keyId wrappedKey
  cases use with
  | forget => rfl
  | unwrap keyId' wrappedKey' =>
    have hunwraps := unwrapKey_unwraps service policy script keyId' wrappedKey' log.online
    simp only [KeyLog.use, lastGiven?]
    split
    · next hpair =>
      obtain ⟨rfl, rfl⟩ := hpair
      rw [← h, findSome?_exchanges hunwraps]
    · next hne => rw [← h, recall?_of_ne hunwraps hne]

/-- What every use keeps holds after all of them. -/
theorem invariant {holds : KeyLog → Prop} (hstart : holds ⟨.start, []⟩)
    (huse : ∀ log use, holds log → holds (log.use service policy script use))
    (uses : List KeyUse) : holds (ofUses service policy script uses) := by
  have hfold (log : KeyLog) (h : holds log) :
      holds (uses.foldl (KeyLog.use service policy script) log) := by
    induction uses generalizing log with
    | nil => exact h
    | cons use uses ih => exact ih _ (huse log use h)
  exact hfold _ hstart

theorem faithful_ofUses (uses : List KeyUse) : (ofUses service policy script uses).Faithful :=
  invariant (fun _ _ => rfl) (fun _ use h => h.use use) uses

end KeyLog

end Courier.Services
