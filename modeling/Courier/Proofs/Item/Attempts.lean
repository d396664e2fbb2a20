import Mathlib.Data.List.Basic
import Courier.Proofs.Body.Decryption
import Courier.Proofs.Item.Account
import Courier.Proofs.Program.Trace

/-!
The attempts to deliver an object. Two operations are tried again, one inside the other: the
delivery, and the reading of the object in each of its attempts. Whatever the answers are, both stay
within their policies, every body that is delivered comes from an object that has just been read,
and there is no further attempt unless the last one has failed in a way worth it.
-/

namespace Courier

open Memory Program

theorem FailureKind.isDeliveryRetryable_iff {kind : FailureKind} :
    kind.isDeliveryRetryable ↔ kind ∈ [FailureKind.delivery, .http, .io] := by
  cases kind <;> decide

namespace Item

/-- The call reads an object, unwraps a key or delivers. -/
def IsDelivering (call : Call) : Prop := kindOf call ∈ [CallKind.get, .unwrap, .deliver]

theorem kindOf_ne {call : Call} {kind : CallKind} (h : ¬ IsDelivering call)
    (hkind : kind ∈ [CallKind.get, .unwrap, .deliver]) : kindOf call ≠ kind := by
  rintro rfl
  exact h hkind

/-- A delivery that the ingestion side has accepted. -/
def IsAccepted (turn : Turn Call.Answer) : Prop :=
  ∃ headers body, turn = ⟨.deliver headers body, .ok ()⟩

/-- No object is read, no key unwrapped and nothing delivered after an accepted delivery. -/
def StopsAccepted (turns : List (Turn Call.Answer)) : Prop :=
  turns.Pairwise fun earlier later => IsAccepted earlier → ¬ IsDelivering later.op

theorem not_isAccepted {turn : Turn Call.Answer} (h : kindOf turn.op ≠ .deliver) :
    ¬ IsAccepted turn := by
  rintro ⟨headers, body, rfl⟩
  exact h rfl

/-- How many calls of a kind have been made. -/
def callsOf (kind : CallKind) (turns : List (Turn Call.Answer)) : Nat :=
  turns.countP fun turn => kindOf turn.op = kind

/-- The object with the key has just been read and its data key has just been unwrapped, and the
    body is the whole object, decrypted with that key from its first byte to its end. -/
def Fresh (key : String) (before : List (Turn Call.Answer)) (body : Body) : Prop :=
  ∃ earlier object envelope dataKey stream,
    before = earlier ++ [⟨.get key, .ok object⟩,
      ⟨.unwrap envelope.keyId envelope.wrappedKey, .ok dataKey⟩] ∧
    Envelope.ofMetadata key object.metadata = .ok envelope ∧
    Material.keystream ⟨dataKey, envelope.counter⟩ = .ok stream ∧
    body = object.body.decrypted stream ∧
    Decryptor.Decrypts ⟨dataKey, envelope.counter⟩ object.body body

/-- Every body is fresh when it is delivered. -/
def DeliversFresh (key : String) (turns : List (Turn Call.Answer)) : Prop :=
  ∀ before after headers body answer,
    turns = before ++ ⟨.deliver headers body, answer⟩ :: after → Fresh key before body

section Accepted

variable {front back : List (Turn Call.Answer)}

theorem StopsAccepted.append_right (hfront : StopsAccepted front)
    (hback : ∀ turn ∈ back, ¬ IsDelivering turn.op) : StopsAccepted (front ++ back) :=
  List.pairwise_append.2 ⟨hfront,
    List.pairwise_of_forall_mem_list fun _ _ later hlater _ => hback later hlater,
    fun _ _ later hlater _ => hback later hlater⟩

theorem StopsAccepted.append_left (hback : StopsAccepted back)
    (hfront : ∀ turn ∈ front, ¬ IsAccepted turn) : StopsAccepted (front ++ back) :=
  List.pairwise_append.2 ⟨
    List.pairwise_of_forall_mem_list fun earlier hearlier _ _ h =>
      absurd h (hfront earlier hearlier),
    hback, fun earlier hearlier _ _ h => absurd h (hfront earlier hearlier)⟩

end Accepted

section CallsOf

variable {kind : CallKind}

theorem callsOf_append (front back : List (Turn Call.Answer)) :
    callsOf kind (front ++ back) = callsOf kind front + callsOf kind back :=
  List.countP_append

theorem callsOf_eq_zero {turns : List (Turn Call.Answer)}
    (h : ∀ turn ∈ turns, kindOf turn.op ≠ kind) : callsOf kind turns = 0 := by
  refine List.countP_eq_zero.2 fun turn hturn => ?_
  rw [decide_eq_true_eq]
  exact h turn hturn

theorem callsOf_flatten_le {parts : List (List (Turn Call.Answer))} {bound : Nat}
    (h : ∀ turns ∈ parts, callsOf kind turns ≤ bound) :
    callsOf kind parts.flatten ≤ parts.length * bound := by
  induction parts with
  | nil => exact Nat.zero_le _
  | cons turns parts ih =>
    obtain ⟨hturns, hparts⟩ := List.forall_mem_cons.1 h
    rw [List.flatten_cons, callsOf_append, List.length_cons, Nat.succ_mul, Nat.add_comm]
    exact Nat.add_le_add (ih hparts) hturns

end CallsOf

section Fresh

variable {key : String} {front back : List (Turn Call.Answer)}

theorem Fresh.after {body : Body} (h : Fresh key back body) (front : List (Turn Call.Answer)) :
    Fresh key (front ++ back) body := by
  obtain ⟨earlier, object, envelope, dataKey, stream, rfl, h⟩ := h
  exact ⟨front ++ earlier, object, envelope, dataKey, stream, by simp, h⟩

theorem DeliversFresh.append (hfront : DeliversFresh key front) (hback : DeliversFresh key back) :
    DeliversFresh key (front ++ back) := by
  intro before after headers body answer h
  obtain ⟨middle, rfl, hmiddle⟩ | ⟨middle, rfl, hmiddle⟩ := List.append_eq_append_iff.1 h
  · exact (hback _ _ _ _ _ hmiddle).after front
  · obtain ⟨rfl, hnext⟩ | ⟨middle, rfl, -⟩ := List.cons_eq_append_iff.1 hmiddle
    · have hfresh := (hback [] _ _ _ _ hnext).after before
      rwa [List.append_nil] at hfresh
    · exact hfront _ _ _ _ _ rfl

theorem DeliversFresh.flatten {parts : List (List (Turn Call.Answer))}
    (h : ∀ turns ∈ parts, DeliversFresh key turns) : DeliversFresh key parts.flatten := by
  induction parts with
  | nil =>
    intro before after headers body answer h
    cases before <;> cases h
  | cons turns parts ih =>
    exact (h turns List.mem_cons_self).append (ih fun other hother => h other (.tail _ hother))

theorem deliversFresh_of_ne {turns : List (Turn Call.Answer)}
    (h : ∀ turn ∈ turns, kindOf turn.op ≠ .deliver) : DeliversFresh key turns := by
  rintro before after headers body answer rfl
  exact absurd rfl (h _ (List.mem_append_right _ List.mem_cons_self))

/-- A single delivery at the end is fresh if its body is. -/
theorem deliversFresh_append_singleton {turns : List (Turn Call.Answer)}
    {headers : List (String × String)} {body : Body} {answer : Except Failure Unit}
    (hnone : ∀ turn ∈ turns, kindOf turn.op ≠ .deliver) (hfresh : Fresh key turns body) :
    DeliversFresh key (turns ++ [⟨.deliver headers body, answer⟩]) := by
  intro before after headers' body' answer' h
  obtain rfl | ⟨after, last, rfl⟩ := List.eq_nil_or_concat' after
  · obtain ⟨rfl, hlast⟩ := List.append_inj' h rfl
    cases hlast
    exact hfresh
  · rw [← List.cons_append, ← List.append_assoc] at h
    obtain ⟨rfl, -⟩ := List.append_inj' h rfl
    exact absurd rfl (hnone _ (List.mem_append_right _ List.mem_cons_self))

end Fresh

/-- The calls of one attempt: reads of the object up to the first that succeeds, one call for its
    data key, and one delivery. The attempt may end before the delivery, and otherwise ends with the
    answer to it. -/
inductive Attempted (settings : Settings) (key : String) (headers : FileHeaders) :
    List (Turn Call.Answer) → Program Call.Answer (Except Failure Unit) → Prop
  | undelivered {turns : List (Turn Call.Answer)} {rest : Program Call.Answer (Except Failure Unit)}
    (hnone : ∀ turn ∈ turns, kindOf turn.op ≠ .deliver)
    (hgets : callsOf .get turns ≤ settings.retries.objectStore.attempts) :
    Attempted settings key headers turns rest
  | delivered {turns : List (Turn Call.Answer)} {body : Body} {answer : Except Failure Unit}
    (hnone : ∀ turn ∈ turns, kindOf turn.op ≠ .deliver)
    (hgets : callsOf .get turns ≤ settings.retries.objectStore.attempts)
    (hfresh : Fresh key turns body) :
    Attempted settings key headers (turns ++ [⟨.deliver (headers.pairs settings.run) body, answer⟩])
      (.done answer)

section Attempt

variable {settings : Settings} {key : String} {headers : FileHeaders}
  {turns : List (Turn Call.Answer)} {rest : Program Call.Answer (Except Failure Unit)}

theorem attempted_of_leads (h : Leads (attempt settings key headers).run turns rest) :
    Attempted settings key headers turns rest := by
  unfold attempt at h
  -- Up to the delivery the object is read and perhaps its key unwrapped.
  have hparts {reads unwraps : List (Turn Call.Answer)}
      (hreads : ∀ turn ∈ reads, turn.op = .get key)
      (hlength : reads.length ≤ settings.retries.objectStore.attempts)
      (hunwraps : ∀ turn ∈ unwraps, kindOf turn.op = .unwrap) :
      (∀ turn ∈ reads ++ unwraps, kindOf turn.op ≠ .deliver) ∧
        callsOf .get (reads ++ unwraps) ≤ settings.retries.objectStore.attempts := by
    refine ⟨fun turn hturn => ?_, ?_⟩
    · obtain hturn | hturn := List.mem_append.1 hturn
      · rw [hreads turn hturn]
        exact nofun
      · rw [hunwraps turn hturn]
        exact nofun
    · have hnone : callsOf .get unwraps = 0 := by
        refine callsOf_eq_zero fun turn hturn => ?_
        rw [hunwraps turn hturn]
        exact nofun
      rw [callsOf_append, hnone]
      exact Nat.le_trans List.countP_le_length hlength
  obtain ⟨rest', hread, -⟩ | ⟨reads, later, object, rfl, hread, hlater⟩ := Leads.of_andThen h
  · obtain ⟨hreads, hlength, -⟩ := Leads.of_retry hread
    obtain ⟨hnone, hgets⟩ := hparts hreads hlength (List.forall_mem_nil _)
    rw [List.append_nil] at hnone hgets
    exact .undelivered hnone hgets
  obtain ⟨hreads, hlength, hvalue⟩ := Leads.of_retry hread
  obtain ⟨hnone, hgets⟩ := hparts hreads hlength (List.forall_mem_nil _)
  obtain ⟨rfl, -⟩ | ⟨envelope, henvelope, hopened⟩ := Leads.of_known hlater
  · exact .undelivered hnone hgets
  have hunwraps (answer : Except Failure String) : ∀ turn ∈
      [(⟨.unwrap envelope.keyId envelope.wrappedKey, answer⟩ : Turn Call.Answer)],
      kindOf turn.op = .unwrap :=
    List.forall_mem_singleton.2 rfl
  obtain ⟨rest', hunwrap, -⟩ | ⟨unwraps, last, dataKey, rfl, hunwrap, hlast⟩ :=
    Leads.of_andThen hopened
  · obtain ⟨rfl, -⟩ | ⟨answer, rfl, -⟩ := Leads.of_question hunwrap
    · exact .undelivered hnone hgets
    · obtain ⟨hnone, hgets⟩ := hparts hreads hlength (hunwraps answer)
      exact .undelivered hnone hgets
  obtain ⟨-, ⟨⟩⟩ | ⟨answer, rfl, hanswer⟩ := Leads.of_question hunwrap
  obtain rfl := Program.done.inj hanswer
  obtain ⟨hnone, hgets⟩ := hparts hreads hlength (hunwraps (.ok dataKey))
  obtain ⟨rfl, -⟩ | ⟨stream, hstream, hdeliver⟩ := Leads.of_known hlast
  · exact .undelivered hnone hgets
  obtain ⟨rfl, -⟩ | ⟨accepted, rfl, rfl⟩ := Leads.of_question hdeliver
  · exact .undelivered hnone hgets
  obtain ⟨failures, hturns⟩ := hvalue (.ok object) rfl
  generalize failures.map (fun failure => (⟨.get key, .error failure⟩ : Turn Call.Answer)) =
    earlier at hturns
  subst hturns
  rw [← List.append_assoc]
  refine .delivered hnone hgets
    ⟨earlier, object, envelope, dataKey, stream, ?_, henvelope, hstream, rfl,
      Decryptor.decrypts_decrypted hstream object.body⟩
  rw [List.append_assoc]
  rfl

namespace Attempted

theorem callsOf_deliver_le (h : Attempted settings key headers turns rest) :
    callsOf .deliver turns ≤ 1 := by
  cases h with
  | undelivered hnone _ =>
    rw [callsOf_eq_zero hnone]
    exact Nat.zero_le 1
  | delivered hnone _ _ =>
    rw [callsOf_append, callsOf_eq_zero hnone]
    exact Nat.le.refl

theorem callsOf_get_le (h : Attempted settings key headers turns rest) :
    callsOf .get turns ≤ settings.retries.objectStore.attempts := by
  cases h with
  | undelivered _ hgets => exact hgets
  | delivered _ hgets _ =>
    rw [callsOf_append]
    exact hgets

theorem deliversFresh (h : Attempted settings key headers turns rest) :
    DeliversFresh key turns := by
  cases h with
  | undelivered hnone _ => exact deliversFresh_of_ne hnone
  | delivered hnone _ hfresh => exact deliversFresh_append_singleton hnone hfresh

theorem stopsAccepted (h : Attempted settings key headers turns rest) : StopsAccepted turns := by
  cases h with
  | undelivered hnone _ =>
    rw [← List.append_nil turns]
    exact StopsAccepted.append_left .nil fun turn hturn => not_isAccepted (hnone turn hturn)
  | delivered hnone _ _ =>
    exact StopsAccepted.append_left (List.pairwise_singleton _ _)
      fun turn hturn => not_isAccepted (hnone turn hturn)

/-- An attempt that has failed has no accepted delivery. -/
theorem not_isAccepted_of_error {failure : Failure}
    (h : Attempted settings key headers turns (.done (.error failure))) :
    ∀ turn ∈ turns, ¬ IsAccepted turn := by
  cases h with
  | undelivered hnone _ => exact fun turn hturn => not_isAccepted (hnone turn hturn)
  | delivered hnone _ _ =>
    intro turn hturn
    obtain hturn | hturn := List.mem_append.1 hturn
    · exact not_isAccepted (hnone turn hturn)
    · obtain rfl := List.mem_singleton.1 hturn
      rintro ⟨_, _, ⟨⟩⟩

end Attempted

end Attempt

section Process

variable {settings : Settings} {key : String} {turns : List (Turn Call.Answer)}

theorem leads_deliver {rest : Program Call.Answer (Except Failure Unit)}
    (h : Leads (deliver settings key).run turns rest) :
    turns = [] ∨ ∃ topic failed last rest',
      Topic.resolve settings.handling.blockedTopics (plainName (fileName key)) = .ok topic ∧
      turns = failed.flatten ++ last ∧
      Attempts Failure.isDeliveryRetryable (attempt settings key (.ofFile (fileName key) topic)).run
        (settings.retries.delivery.attempts - 1) failed last rest' := by
  unfold deliver at h
  obtain ⟨rfl, -⟩ | ⟨topic, htopic, hretry⟩ := Leads.of_known h
  · exact .inl rfl
  · obtain ⟨failed, last, rest', hturns, hattempts, -⟩ := Leads.of_retryFrom hretry
    exact .inr ⟨topic, failed, last, rest', htopic, hturns, hattempts⟩

theorem leads_deliverOrReject {rest : Program Call.Answer (Except Failure (Option Failure))}
    (h : Leads (deliverOrReject settings key).run turns rest) :
    ∃ rest', Leads (deliver settings key).run turns rest' := by
  unfold deliverOrReject at h
  -- What is made of the result of the delivery asks nothing.
  have hdone : ∃ rest', Leads (do deliver settings key; return (none : Option Failure)).run
      turns rest' := by
    obtain ⟨rest', hdone, -⟩ | ⟨front, back, failure, rfl, hdone, hback⟩ := Leads.of_orElse h
    · exact ⟨rest', hdone⟩
    · have hnone : back = [] := by split at hback <;> exact (Leads.eq_of_done hback).1
      rw [hnone, List.append_nil]
      exact ⟨_, hdone⟩
  obtain ⟨rest', hdone⟩ := hdone
  obtain ⟨rest', hdeliver, -⟩ | ⟨front, back, value, rfl, hdeliver, hback⟩ :=
    Leads.of_andThen hdone
  · exact ⟨rest', hdeliver⟩
  · obtain ⟨rfl, -⟩ := Leads.eq_of_done hback
    rw [List.append_nil]
    exact ⟨_, hdeliver⟩

theorem not_isDelivering {call : Call} (hget : kindOf call ≠ .get) (hunwrap : kindOf call ≠ .unwrap)
    (hdeliver : kindOf call ≠ .deliver) : ¬ IsDelivering call := by
  simp [IsDelivering, hget, hunwrap, hdeliver]

theorem alreadySent_makes (settings : Settings) (key : String) :
    Makes (fun call => ¬ IsDelivering call) (alreadySent settings key).run := by
  unfold alreadySent
  split
  · exact .done _
  · exact .retryIf (Call.makes_errand (not_isDelivering nofun nofun nofun))

theorem writeMarker_makes (settings : Settings) (key : String) :
    Makes (fun call => ¬ IsDelivering call) (writeMarker settings key).run :=
  .andThen (.retryIf (Call.makes_errand (not_isDelivering nofun nofun nofun))) fun _ => .done _

theorem countSent_makes (tracker : Tracker) :
    Makes (fun call => ¬ IsDelivering call) tracker.countSent.run :=
  .andThen (.retryIf (Call.makes_errand (not_isDelivering nofun nofun nofun))) fun _ => .done _

/-- The way of the work on an object: looks for its marker, the delivery, and the calls that write
    the marker and count the file. -/
theorem leads_process {rest : Program Call.Answer (Except Failure ItemOutcome)}
    (h : Leads (process settings key).run turns rest) :
    ∃ looks tries after, turns = looks ++ (tries ++ after) ∧
      (∀ turn ∈ looks ++ after, ¬ IsDelivering turn.op) ∧
      ∃ rest', Leads (deliver settings key).run tries rest' := by
  unfold process at h
  obtain ⟨_, hlooks, -⟩ | ⟨looks, later, sent, rfl, hlooks, hlater⟩ := Leads.of_andThen h
  · have hquiet := (alreadySent_makes settings key).leads hlooks
    exact ⟨turns, [], [], by simp, by simpa using hquiet, _, .here _⟩
  have hquiet := (alreadySent_makes settings key).leads hlooks
  cases sent with
  | true =>
    obtain ⟨rfl, -⟩ := Leads.eq_of_done hlater
    exact ⟨looks, [], [], by simp, by simpa using hquiet, _, .here _⟩
  | false =>
    obtain ⟨_, htries, -⟩ | ⟨tries, after, rejection, rfl, htries, hafter⟩ :=
      Leads.of_andThen hlater
    · exact ⟨looks, later, [], by simp, by simpa using hquiet, leads_deliverOrReject htries⟩
    refine ⟨looks, tries, after, rfl, fun turn hturn => ?_, leads_deliverOrReject htries⟩
    obtain hturn | hturn := List.mem_append.1 hturn
    · exact hquiet turn hturn
    cases rejection with
    | some reason =>
      obtain ⟨rfl, -⟩ := Leads.eq_of_done hafter
      cases hturn
    | none =>
      exact Makes.leads (.andThen (writeMarker_makes settings key) fun _ =>
        .andThen (countSent_makes (.ofSettings settings)) fun _ => .done _) hafter turn hturn

/-- The way of a delivery is made of attempts, none of which has failed for good but the last. -/
theorem deliver_attempts {rest : Program Call.Answer (Except Failure Unit)}
    (h : Leads (deliver settings key).run turns rest) :
    ∃ attempts, turns = attempts.flatten ∧
      attempts.length ≤ settings.retries.delivery.attempts ∧
      (∀ turns ∈ attempts, ∃ headers rest, Attempted settings key headers turns rest) ∧
      StopsAccepted turns ∧
      ∀ earlier turns later, attempts = earlier ++ turns :: later → ∃ topic rest,
        Topic.resolve settings.handling.blockedTopics (plainName (fileName key)) = .ok topic ∧
        Leads (attempt settings key (.ofFile (fileName key) topic)).run turns rest ∧
        (later ≠ [] → ∃ failure, rest = .done (.error failure) ∧
          failure.kind ∈ [FailureKind.delivery, .http, .io]) := by
  obtain rfl | ⟨topic, failed, last, rest', htopic, rfl, hattempts⟩ := leads_deliver h
  · exact ⟨[], rfl, Nat.zero_le _, nofun, .nil, fun earlier _ _ h => by cases earlier <;> cases h⟩
  have hlast := attempted_of_leads hattempts.last
  have hfailed (turns : List (Turn Call.Answer)) (hturns : turns ∈ failed) :
      ∃ failure, failure.kind ∈ [FailureKind.delivery, .http, .io] ∧
        Leads (attempt settings key (.ofFile (fileName key) topic)).run turns
          (.done (.error failure)) := by
    obtain ⟨failure, hagain, hleads⟩ := hattempts.again turns hturns
    exact ⟨failure, FailureKind.isDeliveryRetryable_iff.1 hagain, hleads⟩
  refine ⟨failed ++ [last], by simp, ?_, ?_, ?_, ?_⟩
  · have hpositive : 1 ≤ settings.retries.delivery.attempts := Nat.le_max_right _ _
    have hlength := hattempts.length_le
    rw [List.length_append, List.length_singleton]
    omega
  · intro turns hturns
    obtain hturns | hturns := List.mem_append.1 hturns
    · obtain ⟨failure, -, hleads⟩ := hfailed turns hturns
      exact ⟨_, _, attempted_of_leads hleads⟩
    · obtain rfl := List.mem_singleton.1 hturns
      exact ⟨_, _, hlast⟩
  · refine hlast.stopsAccepted.append_left fun turn hturn => ?_
    obtain ⟨turns, hturns, hturn⟩ := List.mem_flatten.1 hturn
    obtain ⟨failure, -, hleads⟩ := hfailed turns hturns
    exact (attempted_of_leads hleads).not_isAccepted_of_error turn hturn
  · intro earlier turns later hsplit
    obtain rfl | ⟨later, other, rfl⟩ := List.eq_nil_or_concat' later
    · obtain ⟨-, hturns⟩ := List.append_inj' hsplit rfl
      cases hturns
      exact ⟨topic, rest', htopic, hattempts.last, absurd rfl⟩
    · rw [← List.cons_append, ← List.append_assoc] at hsplit
      obtain ⟨rfl, -⟩ := List.append_inj' hsplit rfl
      obtain ⟨failure, hkind, hleads⟩ :=
        hfailed turns (List.mem_append_right _ List.mem_cons_self)
      exact ⟨topic, _, htopic, hleads, fun _ => ⟨failure, rfl, hkind⟩⟩

end Process

/-- The calls of the work on an object, made in attempts to deliver it. There are no more deliveries
    and reads than the policies allow, every body is fresh, and nothing is read or delivered after
    an accepted delivery. Between the looks for the marker and the calls that follow a delivery
    there are attempts only, and another one is made only after one that has failed on the way to
    the ingestion side. -/
structure DeliversInAttempts (settings : Settings) (key : String)
    (turns : List (Turn Call.Answer)) : Prop where
  deliveries : callsOf .deliver turns ≤ settings.retries.delivery.attempts
  reads : callsOf .get turns ≤
    settings.retries.delivery.attempts * settings.retries.objectStore.attempts
  fresh : DeliversFresh key turns
  stops : StopsAccepted turns
  attempts : ∃ looks attempts after, turns = looks ++ (attempts.flatten ++ after) ∧
    (∀ turn ∈ looks ++ after, ¬ IsDelivering turn.op) ∧
    attempts.length ≤ settings.retries.delivery.attempts ∧
    ∀ earlier turns later, attempts = earlier ++ turns :: later → ∃ topic rest,
      Topic.resolve settings.handling.blockedTopics (plainName (fileName key)) = .ok topic ∧
      Leads (attempt settings key (.ofFile (fileName key) topic)).run turns rest ∧
      (later ≠ [] → ∃ failure, rest = .done (.error failure) ∧
        failure.kind ∈ [FailureKind.delivery, .http, .io])

/-- An object is delivered in attempts, whatever the answers are and wherever the work stops. -/
theorem process_attempts {settings : Settings} {key : String} {turns : List (Turn Call.Answer)}
    {rest : Program Call.Answer (Except Failure ItemOutcome)}
    (h : Leads (process settings key).run turns rest) : DeliversInAttempts settings key turns := by
  obtain ⟨looks, tries, after, rfl, hquiet, rest', hdeliver⟩ := leads_process h
  obtain ⟨attempts, rfl, hlength, hattempted, hstops, hsplit⟩ := deliver_attempts hdeliver
  obtain ⟨hlooks, hafter⟩ := List.forall_mem_append.1 hquiet
  have hne {turns : List (Turn Call.Answer)} {kind : CallKind}
      (h : ∀ turn ∈ turns, ¬ IsDelivering turn.op)
      (hkind : kind ∈ [CallKind.get, .unwrap, .deliver]) : ∀ turn ∈ turns, kindOf turn.op ≠ kind :=
    fun turn hturn => kindOf_ne (h turn hturn) hkind
  have hcalls {kind : CallKind} {bound : Nat} (hkind : kind ∈ [CallKind.get, .unwrap, .deliver])
      (hbound : ∀ headers turns rest, Attempted settings key headers turns rest →
        callsOf kind turns ≤ bound) :
      callsOf kind (looks ++ (attempts.flatten ++ after)) ≤
        settings.retries.delivery.attempts * bound := by
    have hattempts : callsOf kind attempts.flatten ≤ attempts.length * bound := by
      refine callsOf_flatten_le fun turns hturns => ?_
      obtain ⟨headers, rest, h⟩ := hattempted turns hturns
      exact hbound headers turns rest h
    rw [callsOf_append, callsOf_append, callsOf_eq_zero (hne hlooks hkind),
      callsOf_eq_zero (hne hafter hkind), Nat.zero_add]
    exact Nat.le_trans hattempts (Nat.mul_le_mul_right bound hlength)
  have hdeliver : CallKind.deliver ∈ [CallKind.get, .unwrap, .deliver] := by decide
  refine ⟨?_, hcalls (by decide) fun _ _ _ h => h.callsOf_get_le, ?_, ?_,
    looks, attempts, after, rfl, hquiet, hlength, hsplit⟩
  · have hdeliveries := hcalls hdeliver fun _ _ _ h => h.callsOf_deliver_le
    rwa [Nat.mul_one] at hdeliveries
  · have hattempts : DeliversFresh key attempts.flatten := by
      refine .flatten fun turns hturns => ?_
      obtain ⟨_, _, h⟩ := hattempted turns hturns
      exact h.deliversFresh
    exact (deliversFresh_of_ne (hne hlooks hdeliver)).append
      (hattempts.append (deliversFresh_of_ne (hne hafter hdeliver)))
  · exact (hstops.append_right hafter).append_left fun turn hturn =>
      not_isAccepted (hne hlooks hdeliver turn hturn)

end Item

namespace Sample

/-- A delivery is tried twice. -/
def deliversTwice : Settings :=
  { settings with retries := { settings.retries with delivery := ⟨2, 0, .one⟩ } }

/-- The ingestion side refuses the next delivery. -/
def deliveryFails : World :=
  world.plan .deliver [some ⟨.delivery, .reported "unavailable"⟩]

end Sample

namespace Item

theorem process_attempts_deliveryFails :
    let turns := (process Sample.deliversTwice Sample.key).run.turns World.answer World.pass
      Sample.deliveryFails
    (∃ rest, Leads (process Sample.deliversTwice Sample.key).run turns rest) ∧
    (turns.map fun turn => kindOf turn.op) = [.contains, .get, .unwrap, .deliver, .get, .unwrap,
      .deliver, .put, .increment] ∧
    DeliversInAttempts Sample.deliversTwice Sample.key turns := by
  intro turns
  obtain ⟨rest, hleads, -⟩ := Leads.of_run World.answer World.pass
    (process Sample.deliversTwice Sample.key).run Sample.deliveryFails
  exact ⟨⟨rest, hleads⟩, by decide +kernel, process_attempts hleads⟩

end Item

end Courier
