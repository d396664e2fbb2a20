import Courier.Proofs.Item.Delivery
import Courier.Proofs.Item.Verdict
import Courier.Proofs.Run.Blocking

/-!
Material that is not usable. Setting up the decryption accepts a data key of a fitting length with
the code of a counter of sixteen bytes, and nothing else. The object of any other material is
rejected before its body is looked at, and nothing is delivered for it.
-/

namespace Courier

namespace Memory

/-- The errand fails and leaves this world behind. -/
def Fails {α : Type} (errand : Errand α) (world : World) (failure : Failure) (after : World) :
    Prop :=
  World.run errand world = (some (.error failure), after)

namespace Fails

variable {α β : Type} {errand : Errand α} {world middle after : World} {failure : Failure}

theorem of_error {result : Except Failure α} (h : result = .error failure) :
    Fails (ExceptT.mk (pure result)) world failure world := by
  rw [h]
  rfl

theorem bind (h : Fails errand world failure after) (f : α → Errand β) :
    Fails (errand >>= f) world failure after := Program.run_bind_of_eq h

theorem of_succeeds {value : α} {f : α → Errand β} (h : Succeeds errand world value middle)
    (hf : Fails (f value) middle failure after) : Fails (errand >>= f) world failure after :=
  (Program.run_bind_of_eq h).trans hf

/-- A failure that is not worth another attempt is the last one. -/
theorem retryFrom {again : Failure → Bool} (h : Fails errand world failure after)
    (hagain : again failure = false) (delay : Nat → Option Nat) (left attempt : Nat) :
    Fails (Courier.retryFrom delay again errand left attempt) world failure after := by
  cases left with
  | zero => exact h
  | succ left =>
    refine (Program.run_bind_of_eq h).trans ?_
    simp only [hagain, Bool.false_eq_true, if_false, Program.run]

theorem retryIf {again : Failure → Bool} (h : Fails errand world failure after)
    (policy : RetryPolicy) (hagain : again failure = false) :
    Fails (Courier.retryIf policy again errand) world failure after :=
  h.retryFrom hagain _ _ _

/-- The handler has the last word. -/
theorem tryCatch {value : α} {handler : Failure → Errand α} (h : Fails errand world failure middle)
    (hhandler : Succeeds (handler failure) middle value after) :
    Succeeds (tryCatchThe Failure errand handler) world value after :=
  (Program.run_bind_of_eq h).trans hhandler

end Fails

end Memory

namespace Item

open Memory

/-- An object is stored under the key, and what its metadata and the key service give is this
    material. -/
def Offers (world : World) (key : String) (body : Body) (material : Material) : Prop :=
  ∃ metadata envelope entry, find? world.objects key = some ⟨body, metadata⟩ ∧
    Envelope.ofMetadata key metadata = .ok envelope ∧ envelope.counter = material.counter ∧
    (world.dataKeys.find? fun entry =>
      entry.keyId == envelope.keyId && entry.wrapped == envelope.wrappedKey) = some entry ∧
    entry.plain = material.dataKey

variable {settings : Settings} {key : String} {world middle : World} {body : Body}
  {material : Material} {reason : Failure} {calls : List Call}

/-- An attempt with material that is refused reads the object and asks for its key, and no more. -/
theorem attempt_fails (hoffers : Offers world key body material)
    (hrefused : material.keystream = .error reason) (h : world.Heard middle calls)
    (headers : FileHeaders) :
    ∃ after more, Fails (attempt settings key headers) middle reason after ∧
      world.Heard after (calls ++ more) ∧ ∀ call ∈ more, kindOf call ≠ .deliver := by
  obtain ⟨metadata, envelope, entry, hstored, henvelope, hcounter, hknown, hplain⟩ := hoffers
  have hget := h.answer (.get key) rfl
  have hunwrap := hget.answer (.unwrap envelope.keyId envelope.wrappedKey) rfl
  have hobject : (middle.answer (.get key)).1 = .ok ⟨body, metadata⟩ := by
    rw [h.faultFree.result]
    simp only [World.perform, h.objects, hstored]
  have hkey : ((middle.answer (.get key)).2.answer
      (.unwrap envelope.keyId envelope.wrappedKey)).1 = .ok entry.plain := by
    rw [hget.faultFree.result]
    simp only [World.perform, hget.dataKeys, hknown]
  have hkeystream : Material.keystream ⟨entry.plain, envelope.counter⟩ = .error reason := by
    rw [hplain, hcounter]
    exact hrefused
  refine ⟨_, [.get key, .unwrap envelope.keyId envelope.wrappedKey], ?_, by simpa using hunwrap, ?_⟩
  · apply Fails.of_succeeds ((Succeeds.call hobject).retry _)
    apply Fails.of_succeeds (Succeeds.of_ok henvelope)
    apply Fails.of_succeeds (Succeeds.call hkey)
    exact (Fails.of_error hkeystream).bind _
  · simp [kindOf]

/-- An object whose material is refused is rejected: because of its name, or else because of the
    material. -/
theorem deliverOrReject_rejects (hoffers : Offers world key body material)
    (hrefused : material.keystream = .error reason) (h : world.Heard middle calls) :
    ∃ rejection after more, Succeeds (deliverOrReject settings key) middle (some rejection) after ∧
      world.Heard after (calls ++ more) ∧ (∀ call ∈ more, kindOf call ≠ .deliver) ∧
      ∀ topic, Topic.resolve settings.handling.blockedTopics (plainName (fileName key)) = .ok topic →
        rejection = reason := by
  cases htopic : Topic.resolve settings.handling.blockedTopics (plainName (fileName key)) with
  | error refusal =>
    refine ⟨refusal, middle, [], ?_, by simpa using h, nofun, nofun⟩
    rw [deliverOrReject_of_refused htopic]
    exact .done _ _
  | ok topic =>
    obtain ⟨after, more, hattempt, hheard, hmore⟩ :=
      attempt_fails hoffers hrefused h (.ofFile (fileName key) topic)
    have hpermanent : reason.isPermanent := by
      rw [Failure.isPermanent, Material.kind_of_keystream hrefused]
      rfl
    have hdeliver : Fails (deliver settings key) middle reason after := by
      apply Fails.of_succeeds (Succeeds.of_ok htopic)
      exact hattempt.retryIf _ (not_isDeliveryRetryable hpermanent)
    refine ⟨reason, after, more, ?_, hheard, hmore, fun _ _ => rfl⟩
    apply (hdeliver.bind _).tryCatch
    rw [if_pos hpermanent]
    exact .done _ _

/-- The work on an object without a marker, whose material is refused, rejects it without a
    delivery. -/
theorem process_rejects (hfree : world.FaultFree) (hoffers : Offers world key body material)
    (hmarker : find? world.objects (markerKey settings key) = none)
    (hrefused : material.keystream = .error reason) :
    ∃ rejection after, World.run (process settings key) world =
        (some (.ok (.rejected rejection)), after) ∧
      (∀ event ∈ world.eventsSince after, kindOf event.call ≠ .deliver) ∧
      ∀ topic, Topic.resolve settings.handling.blockedTopics (plainName (fileName key)) = .ok topic →
        rejection = reason := by
  obtain ⟨checked, calls, hsent, hchecked, hcalls⟩ := alreadySent_succeeds hfree hmarker
  obtain ⟨rejection, after, more, hrejects, hheard, hmore, hreason⟩ :=
    deliverOrReject_rejects hoffers hrefused hchecked
  refine ⟨rejection, after, hsent.bind (hrejects.bind (.done _ _)), ?_, hreason⟩
  rw [World.eventsSince_eq hheard.events]
  simp only [List.forall_mem_map, List.forall_mem_append]
  exact ⟨hcalls, hmore⟩

/-- Setting up the decryption succeeds just for a data key of 16, 24 or 32 bytes with the code of a
    block of 16 bytes, which is the only one and becomes the initial counter. Any other material is
    refused for good, whatever the body is: the object is rejected, and nothing is delivered for
    it. -/
theorem setup_accepts_usable (material : Material) :
    (∀ stream, material.keystream = .ok stream ↔
      (Material.bytesOf material.dataKey).length ∈ [16, 24, 32] ∧
        ∃ block, material.CodesBlock block ∧ (∀ other, material.CodesBlock other → other = block) ∧
          stream = .ofKey (Material.bytesOf material.dataKey) block) ∧
    (¬ material.IsUsable → ∃ reason, material.keystream = .error reason ∧
      reason.kind = .decryption ∧
      ∀ (settings : Settings) (key : String) (world : World) (body : Body), world.FaultFree →
        Offers world key body material → find? world.objects (markerKey settings key) = none →
        ∃ rejection after, World.run (process settings key) world =
            (some (.ok (.rejected rejection)), after) ∧
          (∀ event ∈ world.eventsSince after, kindOf event.call ≠ .deliver) ∧
          ∀ topic, Topic.resolve settings.handling.blockedTopics (plainName (fileName key)) =
            .ok topic → rejection = reason) := by
  constructor
  · intro stream
    rw [Material.keystream_eq_ok_iff]
    apply and_congr_right
    intro _
    apply exists_congr
    intro block
    apply and_congr_right
    intro hblock
    exact (and_iff_right fun other hother => hother.unique hblock).symm
  · intro hunusable
    obtain ⟨reason, hrefused⟩ := Material.exists_error_of_not_isUsable hunusable
    refine ⟨reason, hrefused, Material.kind_of_keystream hrefused, ?_⟩
    intro settings key world body hfree hoffers hmarker
    exact process_rejects hfree hoffers hmarker hrefused

end Item

namespace Sample

open Memory

/-- The counter's code with a spare bit that is set. -/
def spareBit : Material := ⟨parcel.dataKey, "BwcHBwcHBwcHBwcHBwcHBx=="⟩

def spareBitMetadata : Metadata :=
  [("CipherText", "w"), ("datakeyencryptionkeyid", "k"), ("IV", spareBit.counter)]

/-- The sealed object, but for a spare bit in the code of its counter. -/
def spareBitWorld : World :=
  { sealedWorld with objects := [(key, ⟨parcel.pieces.map .ok, spareBitMetadata⟩)] }

theorem offers_spareBit :
    Item.Offers spareBitWorld key (parcel.pieces.map .ok) spareBit := by
  refine ⟨spareBitMetadata, ⟨spareBit.counter, "k", "w"⟩, ⟨"k", "w", parcel.dataKey⟩, ?_, ?_, rfl,
    ?_, rfl⟩
  · simp [spareBitWorld, find?]
  · decide +kernel
  · decide +kernel

end Sample

namespace Item

open Memory

theorem setup_accepts_usable_spareBit :
    ¬ Sample.spareBit.IsUsable ∧ Sample.spareBitWorld.FaultFree ∧
    Offers Sample.spareBitWorld Sample.key (Sample.parcel.pieces.map .ok) Sample.spareBit ∧
    (find? Sample.spareBitWorld.objects (markerKey Sample.settings Sample.key)).isNone ∧
    ∃ rejection after, World.run (process Sample.settings Sample.key) Sample.spareBitWorld =
        (some (.ok (.rejected rejection)), after) ∧
      (∀ event ∈ Sample.spareBitWorld.eventsSince after, kindOf event.call ≠ .deliver) ∧
      rejection.kind = .decryption := by
  have hunusable : ¬ Sample.spareBit.IsUsable := by
    rintro ⟨-, block, -, hcode⟩
    have hdecode := Base64.decode_required_eq_ok_iff.2 hcode
    have hrefused : (Base64.decode .required
        (Material.bytesOf (Text.trim Sample.spareBit.counter))).isOk = false := by
      decide +kernel
    rw [hdecode] at hrefused
    cases hrefused
  have hfree : Sample.spareBitWorld.FaultFree := fun _ _ h => nomatch h
  have hmarker : (find? Sample.spareBitWorld.objects
      (markerKey Sample.settings Sample.key)).isNone := by decide +kernel
  have htopic : Topic.resolve Sample.settings.handling.blockedTopics
      (plainName (fileName Sample.key)) = .ok ⟨"core", "thing", "db.core.thing"⟩ := by
    decide +kernel
  obtain ⟨reason, -, hkind, hrejects⟩ := (setup_accepts_usable Sample.spareBit).2 hunusable
  obtain ⟨rejection, after, hrun, hnone, hreason⟩ := hrejects Sample.settings Sample.key
    Sample.spareBitWorld _ hfree Sample.offers_spareBit (Option.isNone_iff_eq_none.1 hmarker)
  refine ⟨hunusable, hfree, Sample.offers_spareBit, hmarker, rejection, after, hrun, hnone, ?_⟩
  rw [hreason _ htopic]
  exact hkind

end Item

end Courier
