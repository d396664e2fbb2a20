import Courier.Proofs.Program.Crew
import Courier.Proofs.Services.KeyRequest

/-!
Callers that need the same key at the same time, from a service that always gives it. What one of
them obtains is remembered for all the others, but only from then on; `rush_requests` says that
whoever has looked for it before asks the service too.
-/

namespace Courier.Services

open Program

/-- Callers for a key, each under a number of its own, with what is left of their calls. -/
structure KeyRush where
  online : Online
  crew : Crew Nat Step.Answer (Except Failure String)

namespace KeyRush

def looksUpKey : Step → Bool
  | .recallKey .. => true
  | _ => false

def remembersKey : Step → Bool
  | .rememberKey .. => true
  | _ => false

inductive Event where
  | asked (caller : Nat) (turn : Turn Step.Answer)
  | waited (caller : Nat) (nanos : Nat)

/-- A caller looks for what is remembered. -/
def Event.looksUp : Event → Bool
  | asked _ turn => looksUpKey turn.op
  | waited .. => false

/-- A caller has something remembered. -/
def Event.remembers : Event → Bool
  | asked _ turn => remembersKey turn.op
  | waited .. => false

theorem Event.looksUp_of_remembers (event : Event) (h : event.remembers) :
    event.looksUp = false := by
  cases event with
  | waited => rfl
  | asked caller turn =>
    obtain ⟨op, answer⟩ := turn
    cases op with
    | rememberKey => rfl
    | _ => cases h

/-- The steps of a rush: any of the callers goes on. -/
inductive Moves (script : Nat → KeyAnswer) : KeyRush → Event → KeyRush → Prop
  | ask {rush : KeyRush} {caller : Nat} (op : Step)
    {crew : Crew Nat Step.Answer (Except Failure String)}
    (hmove : rush.crew.Move caller (some ⟨op, (rush.online.answer script op).1⟩) crew) :
    Moves script rush (.asked caller ⟨op, (rush.online.answer script op).1⟩)
      ⟨(rush.online.answer script op).2, crew⟩
  | wait {rush : KeyRush} {caller : Nat} (nanos : Nat)
    {crew : Crew Nat Step.Answer (Except Failure String)}
    (hmove : rush.crew.Move caller none crew) :
    Moves script rush (.waited caller nanos) ⟨rush.online.pass nanos, crew⟩

/-- Callers that are about to begin, with nothing remembered. -/
def start (service : Endpoint) (policy : RetryPolicy) (keyId wrappedKey : String) (callers : Nat) :
    KeyRush :=
  ⟨.start, (List.range callers).map fun caller =>
    (caller, (unwrapKey service policy keyId wrappedKey).run)⟩

/-- All calls have come to their ends. -/
def Over (rush : KeyRush) : Prop := ∀ entry ∈ rush.crew, ∃ result, entry.2 = .done result

/-- How far a caller has come. -/
inductive Place where
  /-- It is about to look for the key. -/
  | looking
  /-- It has not found the key, and is about to ask for it. -/
  | asking
  /-- It has been given the key. -/
  | given (dataKey : String)
  | ended (dataKey : String)

def Place.isAsking : Place → Bool
  | asking => true
  | _ => false

/-- What is left of a call for a key that the service gives at once. -/
inductive Stands (keyId wrappedKey : String) (request : Http.Request) :
    Place → Program Step.Answer (Except Failure String) → Prop
  | looking {next : Option String → Program Step.Answer (Except Failure String)}
    (hfound : ∀ dataKey, next (some dataKey) = .done (.ok dataKey))
    (hmissed : Stands keyId wrappedKey request .asking (next none)) :
    Stands keyId wrappedKey request .looking (.ask (.recallKey keyId wrappedKey) next)
  | asking {next : KeyAnswer → Program Step.Answer (Except Failure String)}
    (hgiven : ∀ (answer : KeyAnswer) dataKey, answer.given? = some dataKey →
      Stands keyId wrappedKey request (.given dataKey) (next answer)) :
    Stands keyId wrappedKey request .asking (.ask (.post request) next)
  | given (dataKey : String) :
    Stands keyId wrappedKey request (.given dataKey)
      (.ask (.rememberKey keyId wrappedKey dataKey) fun _ => .done (.ok dataKey))
  | ended (dataKey : String) :
    Stands keyId wrappedKey request (.ended dataKey) (.done (.ok dataKey))

section Programs

variable {service : Endpoint} {keyId wrappedKey : String} {request : Http.Request}

/-- A key that is obtained by the first request is not asked for again. -/
theorem exists_retryFrom (h : keyRequest service keyId wrappedKey = .ok request)
    (delay : Nat → Option Nat) (left attempt : Nat) :
    ∃ next : KeyAnswer → Program Step.Answer (Except Failure String),
      retryFrom delay Failure.isKeyServiceRetryable (requestKey service keyId wrappedKey).run left
        attempt = .ask (.post request) next ∧
      ∀ (answer : KeyAnswer) dataKey, answer.given? = some dataKey →
        next answer = .done (.ok dataKey) := by
  rw [requestKey_eq h]
  cases left with
  | zero =>
    refine ⟨_, rfl, fun answer dataKey hgiven => ?_⟩
    rw [KeyAnswer.read_of_given hgiven]
  | succ left =>
    refine ⟨_, rfl, fun answer dataKey hgiven => ?_⟩
    rw [Program.bind, KeyAnswer.read_of_given hgiven]

theorem unwrapKey_stands (policy : RetryPolicy) (hparts : ¬ (keyId.isEmpty ∨ wrappedKey.isEmpty))
    (hrequest : keyRequest service keyId wrappedKey = .ok request) :
    Stands keyId wrappedKey request .looking (unwrapKey service policy keyId wrappedKey).run := by
  unfold unwrapKey
  simp only [hparts, if_false]
  refine .looking (fun dataKey => rfl) ?_
  obtain ⟨next, hnext, hgiven⟩ :=
    exists_retryFrom hrequest policy.delayAfter? (policy.attempts - 1) 1
  rw [← retryIf_requestKey_eq] at hnext
  change Stands keyId wrappedKey request .asking ((retryIf policy Failure.isKeyServiceRetryable
    (requestKey service keyId wrappedKey)).run.bind (ExceptT.bindCont fun dataKey => do
      let _ : Unit ← ExceptT.lift (Step.rememberKey keyId wrappedKey dataKey).ask
      return dataKey))
  rw [hnext]
  refine .asking fun answer dataKey h => ?_
  rw [hgiven answer dataKey h]
  exact .given dataKey

end Programs

/-- What a caller does next, by what is remembered and what the service gives. -/
inductive Advance (keyId wrappedKey : String) (request : Http.Request) (online : Online) :
    Place → Step → Place → Online → Prop
  | found {dataKey : String} (h : online.recall? keyId wrappedKey = some dataKey) :
    Advance keyId wrappedKey request online .looking (.recallKey keyId wrappedKey) (.ended dataKey)
      online
  | missed (h : online.recall? keyId wrappedKey = none) :
    Advance keyId wrappedKey request online .looking (.recallKey keyId wrappedKey) .asking online
  | asked {answer : KeyAnswer} {dataKey : String} (h : answer.given? = some dataKey) :
    Advance keyId wrappedKey request online .asking (.post request) (.given dataKey)
      (online.exchanged request answer)
  | remembered (dataKey : String) :
    Advance keyId wrappedKey request online (.given dataKey)
      (.rememberKey keyId wrappedKey dataKey) (.ended dataKey)
      (online.remember keyId wrappedKey dataKey)

section Steps

variable {script : Nat → KeyAnswer} {keyId wrappedKey : String} {request : Http.Request}
  {place : Place} {program rest : Program Step.Answer (Except Failure String)}

theorem Stands.advance (h : Stands keyId wrappedKey request place program)
    (hreadable : ∀ number, (script number).given?.isSome) {online : Online} {op : Step}
    (hstep : program.Step (some ⟨op, (online.answer script op).1⟩) rest) :
    ∃ place', Stands keyId wrappedKey request place' rest ∧
      Advance keyId wrappedKey request online place op place' (online.answer script op).2 := by
  cases hstep with
  | ask op next answer =>
    cases h with
    | @looking next hfound hmissed =>
      cases hrecall : online.recall? keyId wrappedKey with
      | some dataKey =>
        have hrest : next (online.recall? keyId wrappedKey) = .done (.ok dataKey) := by
          rw [hrecall, hfound]
        exact ⟨.ended dataKey, hrest ▸ .ended dataKey, .found hrecall⟩
      | none =>
        refine ⟨.asking, ?_, .missed hrecall⟩
        rw [← hrecall] at hmissed
        exact hmissed
    | asking hgiven =>
      obtain ⟨dataKey, hdataKey⟩ :=
        Option.isSome_iff_exists.1 (hreadable online.exchanges.length)
      exact ⟨.given dataKey, hgiven _ dataKey hdataKey, .asked hdataKey⟩
    | given dataKey => exact ⟨.ended dataKey, .ended dataKey, .remembered dataKey⟩

theorem Stands.not_wait (h : Stands keyId wrappedKey request place program) :
    ¬ program.Step none rest := by
  intro hstep
  cases hstep
  cases h

/-- Whoever has not come to an end can go on. -/
theorem Stands.exists_step (h : Stands keyId wrappedKey request place program) :
    (∃ result, program = .done result) ∨
      ∃ op, ∀ answer : op.Answer, ∃ rest, program.Step (some ⟨op, answer⟩) rest := by
  cases h with
  | looking | asking | given => exact .inr ⟨_, fun answer => ⟨_, .ask _ _ answer⟩⟩
  | ended dataKey => exact .inl ⟨_, rfl⟩

end Steps

end KeyRush

/-- The service has given the key. -/
def Online.Gives (online : Online) (dataKey : String) : Prop :=
  ∃ exchange ∈ online.exchanges, exchange.answer.given? = some dataKey

namespace KeyRush

/-- A caller has no other key than the service has given. -/
def Place.Fits (online : Online) : Place → Prop
  | given dataKey | ended dataKey => online.Gives dataKey
  | _ => True

/-- What holds all along a rush: every caller is at some place, and all keys have been given by the
    service, in answers to requests for this key. -/
structure Sound (keyId wrappedKey : String) (request : Http.Request) (rush : KeyRush) : Prop where
  stands : ∀ entry ∈ rush.crew, ∃ place : Place,
    Stands keyId wrappedKey request place entry.2 ∧ place.Fits rush.online
  requests : ∀ exchange ∈ rush.online.exchanges, exchange.request = request
  recalled : ∀ dataKey, rush.online.recall? keyId wrappedKey = some dataKey →
    rush.online.Gives dataKey

/-- Whether a program is about to send a request. -/
def posts : Program Step.Answer (Except Failure String) → Bool
  | .ask (.post _) _ => true
  | _ => false

/-- The requests that have been sent and those that are about to be. -/
def requested (rush : KeyRush) : Nat :=
  rush.online.exchanges.length + rush.crew.countP fun entry => posts entry.2

section Run

variable {script : Nat → KeyAnswer} {keyId wrappedKey : String} {request : Http.Request}
  {rush next : KeyRush} {event : Event}

theorem Advance.fits {online after : Online} {place place' : Place} {op : Step}
    (h : Advance keyId wrappedKey request online place op place' after)
    (hrecalled : ∀ dataKey, online.recall? keyId wrappedKey = some dataKey → online.Gives dataKey)
    (hfits : place.Fits online) : place'.Fits after := by
  cases h with
  | found hrecall => exact hrecalled _ hrecall
  | missed => trivial
  | asked hgiven => exact ⟨_, List.mem_append_right _ List.mem_cons_self, hgiven⟩
  | remembered => exact hfits

/-- What the service has given stays so. -/
theorem Advance.gives {online after : Online} {place place' : Place} {op : Step}
    (h : Advance keyId wrappedKey request online place op place' after) {dataKey : String}
    (hgives : online.Gives dataKey) : after.Gives dataKey := by
  cases h with
  | asked =>
    obtain ⟨exchange, hexchange, hgiven⟩ := hgives
    exact ⟨exchange, List.mem_append_left _ hexchange, hgiven⟩
  | _ => exact hgives

theorem Advance.keeps_fits {online after : Online} {place place' other : Place} {op : Step}
    (h : Advance keyId wrappedKey request online place op place' after)
    (hother : other.Fits online) : other.Fits after := by
  cases other with
  | looking | asking => trivial
  | given | ended => exact h.gives hother

theorem Advance.requests {online after : Online} {place place' : Place} {op : Step}
    (h : Advance keyId wrappedKey request online place op place' after)
    (hrequests : ∀ exchange ∈ online.exchanges, exchange.request = request) :
    ∀ exchange ∈ after.exchanges, exchange.request = request := by
  cases h with
  | asked => exact List.forall_mem_append.2 ⟨hrequests, List.forall_mem_singleton.2 rfl⟩
  | _ => exact hrequests

theorem Advance.recalled {online after : Online} {place place' : Place} {op : Step}
    (h : Advance keyId wrappedKey request online place op place' after) (hfits : place.Fits online)
    (hrecalled : ∀ dataKey, online.recall? keyId wrappedKey = some dataKey →
      online.Gives dataKey) :
    ∀ dataKey, after.recall? keyId wrappedKey = some dataKey → after.Gives dataKey := by
  intro dataKey hdataKey
  refine h.gives ?_
  cases h with
  | remembered given =>
    rw [recall?_remember, if_pos ⟨rfl, rfl⟩] at hdataKey
    cases hdataKey
    exact hfits
  | _ => exact hrecalled dataKey hdataKey

/-- The caller that moves, how it advances, and who else is there. -/
theorem Sound.exists_advance (h : rush.Sound keyId wrappedKey request)
    (hreadable : ∀ number, (script number).given?.isSome) (hmoves : Moves script rush event next) :
    ∃ front caller program rest back place place' op answer,
      rush.crew = front ++ (caller, program) :: back ∧
      next.crew = front ++ (caller, rest) :: back ∧ event = .asked caller ⟨op, answer⟩ ∧
      Stands keyId wrappedKey request place program ∧ place.Fits rush.online ∧
      Stands keyId wrappedKey request place' rest ∧
      Advance keyId wrappedKey request rush.online place op place' next.online := by
  cases hmoves with
  | ask op hmove =>
    obtain ⟨online, crew⟩ := rush
    cases hmove with
    | @mk front back _ program rest _ hstep =>
      obtain ⟨place, hstands, hfits⟩ := h.stands _ (List.mem_append_right _ List.mem_cons_self)
      obtain ⟨place', hrest, hadvance⟩ := hstands.advance hreadable hstep
      exact ⟨front, _, program, rest, back, place, place', op, _, rfl, rfl, rfl, hstands, hfits,
        hrest, hadvance⟩
  | wait nanos hmove =>
    obtain ⟨program, rest, hmember, hstep, -⟩ := hmove.exists_step
    obtain ⟨place, hstands, -⟩ := h.stands _ hmember
    exact absurd hstep hstands.not_wait

theorem Sound.step (h : rush.Sound keyId wrappedKey request)
    (hreadable : ∀ number, (script number).given?.isSome) (hmoves : Moves script rush event next) :
    next.Sound keyId wrappedKey request := by
  obtain ⟨front, caller, program, rest, back, place, place', op, _, hcrew, hcrew', -, -, hfits,
    hrest, hadvance⟩ := h.exists_advance hreadable hmoves
  refine ⟨fun entry hentry => ?_, ?_, ?_⟩
  · have hother (hmember : entry ∈ rush.crew) : ∃ place : Place,
        Stands keyId wrappedKey request place entry.2 ∧ place.Fits next.online := by
      obtain ⟨place, hstands, hfits⟩ := h.stands entry hmember
      exact ⟨place, hstands, hadvance.keeps_fits hfits⟩
    rw [hcrew'] at hentry
    rw [hcrew] at hother
    simp only [List.mem_append, List.mem_cons] at hentry hother
    obtain hfront | rfl | hback := hentry
    · exact hother (.inl hfront)
    · exact ⟨place', hrest, hadvance.fits h.recalled hfits⟩
    · exact hother (.inr (.inr hback))
  · exact hadvance.requests h.requests
  · exact hadvance.recalled hfits h.recalled

theorem Stands.posts {place : Place} {program : Program Step.Answer (Except Failure String)}
    (h : Stands keyId wrappedKey request place program) : posts program = place.isAsking := by
  cases h <;> rfl

theorem Advance.isSome_recall? {online after : Online} {place place' : Place} {op : Step}
    (h : Advance keyId wrappedKey request online place op place' after) :
    (after.recall? keyId wrappedKey).isSome =
      ((online.recall? keyId wrappedKey).isSome || remembersKey op) := by
  cases h with
  | remembered dataKey => rw [recall?_remember, if_pos ⟨rfl, rfl⟩, remembersKey, Bool.or_true]; rfl
  | _ => exact (Bool.or_false _).symm

/-- Only a caller that looks in vain comes to ask, and only by asking it gets on. -/
theorem Advance.exchanges_length {online after : Online} {place place' : Place} {op : Step}
    (h : Advance keyId wrappedKey request online place op place' after) :
    after.exchanges.length + place'.isAsking.toNat =
      online.exchanges.length + place.isAsking.toNat +
        (looksUpKey op && (online.recall? keyId wrappedKey).isNone).toNat := by
  cases h with
  | found hrecall | missed hrecall => simp [hrecall, Place.isAsking, looksUpKey]
  | asked => simp [Place.isAsking, looksUpKey, Online.exchanged]
  | remembered => rfl

theorem Sound.requested (h : rush.Sound keyId wrappedKey request)
    (hreadable : ∀ number, (script number).given?.isSome) (hmoves : Moves script rush event next) :
    next.requested = rush.requested +
        (event.looksUp && (rush.online.recall? keyId wrappedKey).isNone).toNat ∧
      (next.online.recall? keyId wrappedKey).isSome =
        ((rush.online.recall? keyId wrappedKey).isSome || event.remembers) := by
  obtain ⟨front, caller, program, rest, back, place, place', op, answer, hcrew, hcrew', rfl,
    hstands, -, hrest, hadvance⟩ := h.exists_advance hreadable hmoves
  refine ⟨?_, hadvance.isSome_recall?⟩
  have hlength := hadvance.exchanges_length
  have hone (b : Bool) : (if b then 1 else 0) = b.toNat := by cases b <;> rfl
  simp only [KeyRush.requested, hcrew, hcrew', List.countP_append, List.countP_cons, hstands.posts,
    hrest.posts, hone, Event.looksUp]
  omega

/-- As long as nothing is remembered, every caller that looks asks; after that nobody does. -/
theorem Sound.requested_path {events : List Event} (hpath : Path (Moves script) rush events next)
    (hreadable : ∀ number, (script number).given?.isSome)
    (h : rush.Sound keyId wrappedKey request) :
    next.requested = rush.requested +
      if (rush.online.recall? keyId wrappedKey).isSome then 0
      else (events.takeWhile fun event => !event.remembers).countP Event.looksUp := by
  induction hpath with
  | nil => simp
  | @cons first middle last event events hmoves hrest ih =>
    obtain ⟨hrequested, hsome⟩ := h.requested hreadable hmoves
    rw [ih (h.step hreadable hmoves), hrequested, hsome]
    cases first.online.recall? keyId wrappedKey with
    | some dataKey => simp
    | none =>
      cases hremembers : event.remembers with
      | true => simp [hremembers, event.looksUp_of_remembers hremembers]
      | false =>
        cases hlooks : event.looksUp with
        | true =>
          simp [hremembers, hlooks]
          omega
        | false => simp [hremembers, hlooks]

/-- As long as there is a call without a result, one of the callers can go on. -/
theorem Sound.exists_moves (h : rush.Sound keyId wrappedKey request) (hover : ¬ rush.Over) :
    ∃ event next, Moves script rush event next := by
  obtain ⟨entry, hentry, hopen⟩ : ∃ entry ∈ rush.crew, ¬ ∃ result, entry.2 = .done result := by
    simpa [Over] using hover
  obtain ⟨place, hstands, -⟩ := h.stands entry hentry
  obtain hdone | ⟨op, hask⟩ := hstands.exists_step
  · exact absurd hdone hopen
  · obtain ⟨rest, hstep⟩ := hask (rush.online.answer script op).1
    obtain ⟨front, back, hcrew⟩ := List.append_of_mem hentry
    obtain ⟨online, crew⟩ := rush
    obtain rfl : crew = front ++ (entry.1, entry.2) :: back := hcrew
    exact ⟨_, _, .ask op (.mk front back entry.1 hstep)⟩

/-- What is left of the calls becomes less with every step. -/
theorem Moves.lessens (h : Moves script rush event next) :
    Lessens Program.Child (next.crew.map Prod.snd) (rush.crew.map Prod.snd) := by
  have hcrew {crew crew' : Crew Nat Step.Answer (Except Failure String)} {caller : Nat}
      {turn : Option (Turn Step.Answer)} (hmove : crew.Move caller turn crew') :
      Lessens Program.Child (crew'.map Prod.snd) (crew.map Prod.snd) := by
    cases hmove with
    | mk front back caller hstep =>
      exact .replace _ _ ((front ++ back).map Prod.snd) hstep.child
        (List.perm_middle.map Prod.snd) (List.perm_middle.map Prod.snd)
  cases h with
  | ask op hmove => exact hcrew hmove
  | wait nanos hmove => exact hcrew hmove

theorem Sound.inevitable (h : rush.Sound keyId wrappedKey request)
    (hreadable : ∀ number, (script number).given?.isSome) :
    Inevitable (Moves script) Over rush := by
  by_cases hover : rush.Over
  · exact .reached hover
  let closer (next rush : KeyRush) : Prop :=
    Lessens Program.Child (next.crew.map Prod.snd) (rush.crew.map Prod.snd)
  have hcloser : WellFounded closer :=
    InvImage.wf _ (Lessens.wellFounded Program.wellFounded_child)
  let holds (rush : KeyRush) : Prop := rush.Sound keyId wrappedKey request ∧ ¬ rush.Over
  have hopen (rush : KeyRush) (hrush : holds rush) : ∃ event next, Moves script rush event next :=
    hrush.1.exists_moves hrush.2
  refine Inevitable.of_wellFounded hcloser hopen (fun rush event next hrush hmoves => ?_) ⟨h, hover⟩
  by_cases hnext : next.Over
  · exact .inl hnext
  · exact .inr ⟨⟨hrush.1.step hreadable hmoves, hnext⟩, hmoves.lessens⟩

theorem start_sound {service : Endpoint} (policy : RetryPolicy)
    (hparts : ¬ (keyId.isEmpty ∨ wrappedKey.isEmpty))
    (hrequest : keyRequest service keyId wrappedKey = .ok request) (callers : Nat) :
    (start service policy keyId wrappedKey callers).Sound keyId wrappedKey request where
  stands := by
    intro entry hentry
    obtain ⟨caller, -, rfl⟩ := List.mem_map.1 hentry
    exact ⟨.looking, unwrapKey_stands policy hparts hrequest, trivial⟩
  requests := List.forall_mem_nil _
  recalled := nofun

theorem start_requested {service : Endpoint} (policy : RetryPolicy)
    (hparts : ¬ (keyId.isEmpty ∨ wrappedKey.isEmpty))
    (hrequest : keyRequest service keyId wrappedKey = .ok request) (callers : Nat) :
    (start service policy keyId wrappedKey callers).requested = 0 := by
  have hposts : posts (unwrapKey service policy keyId wrappedKey).run = false :=
    (unwrapKey_stands policy hparts hrequest).posts
  simp [KeyRush.requested, start, Online.start, hposts]

/-- When all calls have come to their ends, no request is about to be sent. -/
theorem Over.requested (h : rush.Over) : rush.requested = rush.online.exchanges.length := by
  have hnone : (rush.crew.countP fun entry => posts entry.2) = 0 := by
    refine List.countP_eq_zero.2 fun entry hentry => ?_
    obtain ⟨result, hresult⟩ := h entry hentry
    rw [hresult]
    nofun
  rw [KeyRush.requested, hnone, Nat.add_zero]

theorem Sound.result_of_done (h : rush.Sound keyId wrappedKey request) {caller : Nat}
    {result : Except Failure String} (hentry : (caller, .done result) ∈ rush.crew) :
    ∃ dataKey, rush.online.Gives dataKey ∧ result = .ok dataKey := by
  obtain ⟨place, hstands, hfits⟩ := h.stands _ hentry
  cases hstands with
  | ended dataKey => exact ⟨dataKey, hfits, rfl⟩

end Run

end KeyRush

open KeyRush in
/-- However the calls of any number of callers for one key interleave, with a key service that
    always gives it: all calls come to their ends, each with a key that the service has given, and
    nothing but this key is asked for. There are as many requests as callers that have looked before
    anything was remembered, so there is one exactly if only one caller has. -/
theorem rush_requests (service : Endpoint) (policy : RetryPolicy) {script : Nat → KeyAnswer}
    {keyId wrappedKey : String} {request : Http.Request}
    (hparts : ¬ (keyId.isEmpty ∨ wrappedKey.isEmpty))
    (hrequest : keyRequest service keyId wrappedKey = .ok request)
    (hreadable : ∀ number, (script number).given?.isSome) (callers : Nat) :
    Inevitable (Moves script) Over (start service policy keyId wrappedKey callers) ∧
    ∀ events rush,
      Path (Moves script) (start service policy keyId wrappedKey callers) events rush →
      (∀ exchange ∈ rush.online.exchanges, exchange.request = request) ∧
      (∀ caller result, (caller, .done result) ∈ rush.crew →
        ∃ dataKey, rush.online.Gives dataKey ∧ result = .ok dataKey) ∧
      (rush.Over → rush.online.exchanges.length =
        (events.takeWhile fun event => !event.remembers).countP Event.looksUp) := by
  have hstart := start_sound policy hparts hrequest callers
  refine ⟨hstart.inevitable hreadable, fun events rush hpath => ?_⟩
  have hsound : rush.Sound keyId wrappedKey request :=
    hpath.invariant hstart fun _ _ _ hmoves h => h.step hreadable hmoves
  refine ⟨hsound.requests, fun caller result => hsound.result_of_done, fun hover => ?_⟩
  have hcount := hstart.requested_path hpath hreadable
  rw [hover.requested, start_requested policy hparts hrequest, Nat.zero_add] at hcount
  exact hcount

namespace KeyRush

theorem Moves.of_answer {script : Nat → KeyAnswer} {online after : Online} {op : Step}
    {answer : op.Answer} {next : op.Answer → Program Step.Answer (Except Failure String)}
    {rest : Program Step.Answer (Except Failure String)}
    (hanswer : online.answer script op = (answer, after)) (hrest : next answer = rest)
    (front back : Crew Nat Step.Answer (Except Failure String)) (caller : Nat) :
    Moves script ⟨online, front ++ (caller, .ask op next) :: back⟩ (.asked caller ⟨op, answer⟩)
      ⟨after, front ++ (caller, rest) :: back⟩ := by
  obtain rfl : answer = (online.answer script op).1 := (congrArg Prod.fst hanswer).symm
  obtain rfl : after = (online.answer script op).2 := (congrArg Prod.snd hanswer).symm
  exact .ask op (.mk front back caller (hrest ▸ .ask op next _))

theorem Stands.eq_of_given {keyId wrappedKey dataKey : String} {request : Http.Request}
    {program : Program Step.Answer (Except Failure String)}
    (h : Stands keyId wrappedKey request (.given dataKey) program) :
    program = .ask (.rememberKey keyId wrappedKey dataKey) fun _ => .done (.ok dataKey) := by
  cases h
  rfl

/-- Two callers that both look before either of them has anything remembered cost two requests. -/
theorem exists_two_requests {service : Endpoint} (policy : RetryPolicy) {script : Nat → KeyAnswer}
    {keyId wrappedKey : String} {request : Http.Request}
    (hparts : ¬ (keyId.isEmpty ∨ wrappedKey.isEmpty))
    (hrequest : keyRequest service keyId wrappedKey = .ok request)
    (hreadable : ∀ number, (script number).given?.isSome) :
    ∃ events rush, Path (Moves script) (start service policy keyId wrappedKey 2) events rush ∧
      rush.Over ∧ rush.online.exchanges.length = 2 := by
  obtain ⟨first, hfirst⟩ := Option.isSome_iff_exists.1 (hreadable 0)
  obtain ⟨second, hsecond⟩ := Option.isSome_iff_exists.1 (hreadable 1)
  have hstart : start service policy keyId wrappedKey 2 =
      ⟨.start, [(0, (unwrapKey service policy keyId wrappedKey).run),
        (1, (unwrapKey service policy keyId wrappedKey).run)]⟩ := rfl
  have hlooking := unwrapKey_stands policy hparts hrequest
  rw [hstart]
  generalize (unwrapKey service policy keyId wrappedKey).run = program at hlooking
  cases hlooking with
  | @looking look _ hasking =>
    generalize hmissed : look none = asking at hasking
    cases hasking with
    | @asking ask hgiven =>
      -- both look, both ask, and only then both have remembered what they were given
      have hfirst' := (hgiven _ first hfirst).eq_of_given
      have hsecond' := (hgiven _ second hsecond).eq_of_given
      exact ⟨_, _, .cons (.of_answer rfl hmissed [] _ 0) <|
        .cons (.of_answer rfl hmissed [_] [] 1) <| .cons (.of_answer rfl hfirst' [] _ 0) <|
        .cons (.of_answer rfl hsecond' [_] [] 1) <| .cons (.of_answer rfl rfl [] _ 0) <|
        .cons (.of_answer rfl rfl [_] [] 1) <| .nil _,
        List.forall_mem_cons.2 ⟨⟨_, rfl⟩, List.forall_mem_singleton.2 ⟨_, rfl⟩⟩, rfl⟩

end KeyRush

namespace Sample

/-- The body of a reply with a key. -/
def keyText : String := "\x7b\"dataKeyEncryptionKeyId\":\"k\",\"plaintextDataKey\":\"p\"\x7d"

/-- The answers of a service that gives the same key to everyone. -/
def giving : Nat → KeyAnswer := fun _ => .ok ⟨⟨200⟩, some keyText.toUTF8.toList⟩

theorem giving_given (number : Nat) : (giving number).given? = some "p" := by
  have htext : keyText = (Json.object [("dataKeyEncryptionKeyId", .string "k"),
      ("plaintextDataKey", .string "p")]).text := by
    decide +kernel
  exact KeyAnswer.given?_of_text rfl (congrArg (fun text => some text.toUTF8.toList) htext)

theorem giving_isSome (number : Nat) : (giving number).given?.isSome := by
  rw [giving_given]
  rfl

theorem exists_keyRequest : ∃ request, keyRequest keyService "k" "w" = .ok request := by
  have hok : (keyRequest keyService "k" "w").isOk := by decide +kernel
  cases hrequest : keyRequest keyService "k" "w" with
  | ok request => exact ⟨request, rfl⟩
  | error trouble =>
    rw [hrequest] at hok
    cases hok

end Sample

theorem rush_requests_giving :
    (¬ ("k".isEmpty ∨ "w".isEmpty) ∧
      (∃ request, keyRequest Sample.keyService "k" "w" = .ok request) ∧
      ∀ number, (Sample.giving number).given?.isSome) ∧
    ∃ events rush,
      Path (KeyRush.Moves Sample.giving) (KeyRush.start Sample.keyService .once "k" "w" 2) events
        rush ∧ rush.Over ∧
      (events.takeWhile fun event => !event.remembers).countP KeyRush.Event.looksUp = 2 := by
  have hparts : ¬ ("k".isEmpty ∨ "w".isEmpty) := by decide
  obtain ⟨request, hrequest⟩ := Sample.exists_keyRequest
  obtain ⟨events, rush, hpath, hover, htwo⟩ :=
    KeyRush.exists_two_requests .once hparts hrequest Sample.giving_isSome
  obtain ⟨-, hpaths⟩ :=
    rush_requests Sample.keyService .once hparts hrequest Sample.giving_isSome 2
  obtain ⟨-, -, hcount⟩ := hpaths events rush hpath
  exact ⟨⟨hparts, ⟨request, hrequest⟩, Sample.giving_isSome⟩, events, rush, hpath, hover,
    (hcount hover).symm.trans htwo⟩

/-- Two callers cost two requests, although the service gives the key to whoever asks. -/
theorem Sample.exists_asked_twice :
    ∃ (service : Endpoint) (policy : RetryPolicy) (script : Nat → KeyAnswer)
      (keyId wrappedKey : String) (events : List KeyRush.Event) (rush : KeyRush),
      ¬ (keyId.isEmpty ∨ wrappedKey.isEmpty) ∧
      (keyRequest service keyId wrappedKey).isOk ∧
      (∀ number, (script number).given?.isSome) ∧
      Path (KeyRush.Moves script) (KeyRush.start service policy keyId wrappedKey 2) events rush ∧
      rush.Over ∧ rush.online.exchanges.length = 2 := by
  obtain ⟨request, hrequest⟩ := exists_keyRequest
  obtain ⟨events, rush, hpath, hover, htwo⟩ :=
    KeyRush.exists_two_requests .once (by decide) hrequest giving_isSome
  exact ⟨keyService, .once, giving, "k", "w", events, rush, by decide, by rw [hrequest]; rfl,
    giving_isSome, hpath, hover, htwo⟩

end Courier.Services
