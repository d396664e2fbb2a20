import Courier.Body.Material
import Courier.Proofs.Aes.CounterMode
import Courier.Proofs.Base64.Quantum
import Courier.Proofs.Body.Polling

/-!
Bodies cut into pieces. A body that is a code as a whole is decrypted to the same bytes wherever it
is cut. A body that is none is rejected, unless it is several codes one behind another and a piece
ends in front of each of them.
-/

namespace Courier

open Base64

/-- The bytes of a body that are not blank. -/
def visible (bytes : List UInt8) : List UInt8 := bytes.filter (!Decryptor.isBlankByte ·)

theorem visible_append (front back : List UInt8) :
    visible (front ++ back) = visible front ++ visible back := List.filter_append ..

/-- With `pending` in front, one of the pieces ends, or the first one starts, where `index` quanta
    are complete and no further one is. -/
def Border (pending : List UInt8) (pieces : List (List UInt8)) (index : Nat) : Prop :=
  ∃ count, (pending ++ visible (pieces.take count).flatten).length / 4 = index

/-- The text in `pending` and the pieces behind it reads as codes one behind another, and a piece
    ends in front of each of them but the first, before the first quantum of it is complete. -/
def ReadsAsCodes (pending : List UInt8) (pieces : List (List UInt8)) : Prop :=
  (∀ index, 4 * index < (pending ++ visible pieces.flatten).length →
    IsCode (quantum (pending ++ visible pieces.flatten) index)) ∧
  ∀ index, 4 * (index + 1) < (pending ++ visible pieces.flatten).length →
    padByte ∈ quantum (pending ++ visible pieces.flatten) index →
      Border pending pieces (index + 1)

section Reading

variable {pending piece front back : List UInt8} {pieces : List (List UInt8)} {index : Nat}

theorem append_visible_cons (pending piece : List UInt8) (pieces : List (List UInt8)) :
    pending ++ visible (piece :: pieces).flatten =
      pending ++ visible piece ++ visible pieces.flatten := by
  rw [List.flatten_cons, visible_append, List.append_assoc]

theorem border_cons_iff :
    Border pending (piece :: pieces) index ↔
      pending.length / 4 = index ∨ Border (pending ++ visible piece) pieces index := by
  constructor
  · rintro ⟨_ | count, hcount⟩
    · exact .inl ((congrArg (List.length · / 4) (List.append_nil pending)).symm.trans hcount)
    · rw [List.take_succ_cons, append_visible_cons] at hcount
      exact .inr ⟨count, hcount⟩
  · rintro (hindex | ⟨count, hcount⟩)
    · exact ⟨0, (congrArg (List.length · / 4) (List.append_nil pending)).trans hindex⟩
    · refine ⟨count + 1, ?_⟩
      rw [List.take_succ_cons, append_visible_cons, hcount]

theorem border_append_iff (hfront : front.length % 4 = 0) :
    Border (front ++ back) pieces (front.length / 4 + index) ↔ Border back pieces index := by
  refine exists_congr fun count => ?_
  rw [List.append_assoc, List.length_append]
  omega

theorem le_of_border (h : Border (front ++ back) pieces index) : front.length / 4 ≤ index := by
  obtain ⟨count, rfl⟩ := h
  rw [List.append_assoc, List.length_append]
  omega

theorem border_length (pending : List UInt8) (pieces : List (List UInt8)) :
    Border pending pieces (pending.length / 4) :=
  ⟨0, congrArg (List.length · / 4) (List.append_nil pending)⟩

theorem readsAsCodes_nil_iff (h : pending.length < 4) :
    ReadsAsCodes pending [] ↔ IsCode pending := by
  have htext : pending ++ visible ([] : List (List UInt8)).flatten = pending :=
    List.append_nil pending
  rw [ReadsAsCodes, htext, isCode_iff]
  refine and_congr_right fun _ => forall_congr' fun index => ?_
  constructor <;> intro _ hindex <;> omega

theorem readsAsCodes_cons_short (h : (pending ++ visible piece).length < 4) :
    ReadsAsCodes pending (piece :: pieces) ↔ ReadsAsCodes (pending ++ visible piece) pieces := by
  have hpending : pending.length / 4 = 0 := by
    rw [List.length_append] at h
    omega
  rw [ReadsAsCodes, ReadsAsCodes, append_visible_cons]
  refine and_congr_right fun _ => forall_congr' fun index => ?_
  rw [border_cons_iff, hpending, or_iff_right (Nat.succ_ne_zero index).symm]

/-- The quanta of the batch that a piece completes are a code of their own, and what is behind them
    reads on. -/
theorem readsAsCodes_cons_batch (hpending : pending.length < 4)
    (htext : pending ++ visible piece = front ++ back) (hfront : front.length % 4 = 0)
    (hback : back.length < 4) :
    ReadsAsCodes pending (piece :: pieces) ↔ IsCode front ∧ ReadsAsCodes back pieces := by
  obtain ⟨count, hcount⟩ : ∃ count, front.length = 4 * count := ⟨front.length / 4, by omega⟩
  have hborder (index : Nat) : Border pending (piece :: pieces) (index + 1) ↔
      Border (front ++ back) pieces (index + 1) := by
    rw [border_cons_iff, htext, Nat.div_eq_of_lt hpending,
      or_iff_right (Nat.succ_ne_zero index).symm]
  rw [ReadsAsCodes, append_visible_cons, htext, List.append_assoc, isCode_iff front, ReadsAsCodes]
  generalize hrest : back ++ visible pieces.flatten = rest
  have hlength : (front ++ rest).length = 4 * count + rest.length := by
    rw [List.length_append, hcount]
  have hleft {index : Nat} (h : index < count) :
      quantum (front ++ rest) index = quantum front index := quantum_append_left (by omega)
  have hright (index : Nat) : quantum (front ++ rest) (count + index) = quantum rest index :=
    quantum_append_right hcount index
  constructor
  · rintro ⟨hcodes, hborders⟩
    refine ⟨⟨fun index hindex => ?_, fun index hindex hpad => ?_⟩, fun index hindex => ?_,
      fun index hindex hpad => ?_⟩
    · rw [← hleft (by omega)]
      exact hcodes index (by omega)
    · -- within the batch no piece ends
      have := le_of_border ((hborder index).1
        (hborders index (by omega) (by rwa [hleft (by omega)])))
      omega
    · rw [← hright]
      exact hcodes _ (by omega)
    · have := (hborder _).1 (hborders (count + index) (by omega) (by rwa [hright]))
      rw [Nat.add_assoc, show count = front.length / 4 by omega] at this
      exact (border_append_iff hfront).1 this
  · rintro ⟨⟨hcodes, hpads⟩, hcodes', hborders⟩
    refine ⟨fun index hindex => ?_, fun index hindex hpad => (hborder index).2 ?_⟩
    · obtain hlt | ⟨index, rfl⟩ := (Nat.lt_or_ge index count).imp_right Nat.exists_eq_add_of_le
      · rw [hleft hlt]
        exact hcodes index (by omega)
      · rw [hright]
        exact hcodes' index (by omega)
    · obtain hlt | ⟨index, rfl⟩ := (Nat.lt_or_ge index count).imp_right Nat.exists_eq_add_of_le
      · -- a pad in the batch stands in its last quantum, behind which the piece ends
        rw [hleft hlt] at hpad
        obtain hinner | hlast : index + 1 < count ∨ index + 1 = count := by omega
        · exact absurd hpad (hpads index (by omega))
        · have hend := border_length (front ++ back) pieces
          rwa [List.length_append, show (front.length + back.length) / 4 = index + 1 by omega]
            at hend
      · rw [hright] at hpad
        rw [Nat.add_assoc, show count = front.length / 4 by omega]
        exact (border_append_iff hfront).2 (hborders index (by omega) hpad)

end Reading

namespace Decryptor

variable {state : Decryptor} {pieces : List (List UInt8)} {bytes : List UInt8}

section Steps

theorem decode_of_ok {count : Nat}
    (h : Base64.decode .optional (state.pending.take count) = .ok bytes) :
    state.decode count = (.ok (state.stream.apply state.position bytes),
      { state with
        position := state.position + bytes.length, pending := state.pending.drop count }) := by
  rw [Decryptor.decode, h]

theorem decode_of_error {count : Nat} {fault : Fault}
    (h : Base64.decode .optional (state.pending.take count) = .error fault) :
    state.decode count = (.error (.malformed fault), { state with finished := true }) := by
  rw [Decryptor.decode, h]

/-- What the decryptor holds when it has taken in a piece and not decoded anything. -/
def extended (state : Decryptor) (piece : List UInt8) : Decryptor :=
  { state with pending := state.pending ++ visible piece }

theorem feed_ok (state : Decryptor) (piece : List UInt8) :
    state.feed (.ok piece) =
      let next := state.extended piece
      let whole := next.pending.length / 4 * 4
      if whole = 0 then (none, next) else (some (next.decode whole).1, (next.decode whole).2) := rfl

/-- A piece that completes no quantum is only kept. -/
theorem feed_short {piece : List UInt8} (h : (state.pending ++ visible piece).length < 4) :
    state.feed (.ok piece) = (none, state.extended piece) := by
  have hwhole : (state.extended piece).pending.length / 4 * 4 = 0 := by
    rw [extended, Nat.div_eq_of_lt h, Nat.zero_mul]
  rw [feed_ok]
  simp only [hwhole, if_true]

theorem drain_short (hfinished : state.finished = false) {piece : List UInt8}
    (h : (state.pending ++ visible piece).length < 4) (body : Body) :
    state.drain (.ok piece :: body) = (state.extended piece).drain body := by
  rw [drain_cons hfinished, feed_short h]
  rfl

section Batch

variable {piece front back : List UInt8}

/-- A piece that completes quanta has them decoded together. -/
theorem feed_batch (htext : state.pending ++ visible piece = front ++ back) (hfront : front ≠ [])
    (hwhole : front.length % 4 = 0) (hback : back.length < 4) :
    state.feed (.ok piece) = (some ((state.extended piece).decode front.length).1,
      ((state.extended piece).decode front.length).2) := by
  have hpositive := List.length_pos_iff.2 hfront
  have hcount : (state.extended piece).pending.length / 4 * 4 = front.length := by
    rw [extended, htext, List.length_append]
    omega
  rw [feed_ok]
  simp only [hcount]
  rw [if_neg (Nat.ne_of_gt hpositive)]

theorem take_extended (htext : state.pending ++ visible piece = front ++ back) :
    (state.extended piece).pending.take front.length = front := by
  rw [extended, htext, List.take_left]

/-- Quanta that are a code are decrypted, and what is behind them is kept. -/
theorem drain_batch (hfinished : state.finished = false)
    (htext : state.pending ++ visible piece = front ++ back) (hfront : front ≠ [])
    (hwhole : front.length % 4 = 0) (hback : back.length < 4)
    (hcode : Base64.decode .optional front = .ok bytes) (body : Body) :
    (state.drain (.ok piece :: body)).1 = .ok (state.stream.apply state.position bytes) ::
      (({ state with position := state.position + bytes.length, pending := back } :
        Decryptor).drain body).1 := by
  rw [drain_cons hfinished, feed_batch htext hfront hwhole hback,
    decode_of_ok ((congrArg _ (take_extended htext)).trans hcode)]
  simp only [extended, htext, List.drop_left]
  rfl

/-- Quanta that are no code are the last thing that is looked at. -/
theorem drain_malformed (hfinished : state.finished = false)
    (htext : state.pending ++ visible piece = front ++ back) (hfront : front ≠ [])
    (hwhole : front.length % 4 = 0) (hback : back.length < 4) {fault : Fault}
    (hcode : Base64.decode .optional front = .error fault) (body : Body) :
    (state.drain (.ok piece :: body)).1 = [.error (.malformed fault)] := by
  rw [drain_cons hfinished, feed_batch htext hfront hwhole hback,
    decode_of_error ((congrArg _ (take_extended htext)).trans hcode), drain_of_finished rfl]
  rfl

end Batch

/-- At the end what has been kept is decrypted. -/
theorem drain_end (hfinished : state.finished = false)
    (hcode : Base64.decode .optional state.pending = .ok bytes) :
    ∃ items : List (List UInt8), (state.drain []).1 = items.map .ok ∧
      items.flatten = state.stream.apply state.position bytes := by
  rw [drain_nil hfinished, close]
  split
  · next hempty =>
    rw [List.isEmpty_iff.1 hempty, decode_nil] at hcode
    cases hcode
    exact ⟨[], rfl, rfl⟩
  · refine ⟨[state.stream.apply state.position bytes], ?_, List.append_nil _⟩
    rw [decode_of_ok ((congrArg _ List.take_length).trans hcode)]
    rfl

theorem drain_end_malformed (hfinished : state.finished = false) {fault : Fault}
    (hcode : Base64.decode .optional state.pending = .error fault) :
    (state.drain []).1 = [.error (.malformed fault)] := by
  rw [drain_nil hfinished, close]
  split
  · next hempty =>
    rw [List.isEmpty_iff.1 hempty, decode_nil] at hcode
    cases hcode
  · rw [decode_of_error ((congrArg _ List.take_length).trans hcode)]
    rfl

theorem exists_batch {text : List UInt8} (h : 4 ≤ text.length) :
    ∃ front back, text = front ++ back ∧ front ≠ [] ∧ front.length % 4 = 0 ∧ back.length < 4 := by
  have hfront : (text.take (text.length / 4 * 4)).length = text.length / 4 * 4 := by
    rw [List.length_take]
    omega
  refine ⟨_, _, (List.take_append_drop (text.length / 4 * 4) text).symm, ?_, ?_, ?_⟩
  · rw [← List.length_pos_iff, hfront]
    omega
  · rw [hfront, Nat.mul_mod_left]
  · rw [List.length_drop]
    omega

end Steps

/-- A body that is a code as a whole is decrypted as a whole, in as many items as it takes. -/
theorem drain_of_code (hregular : state.stream.Regular) (hfinished : state.finished = false)
    (hcode : Base64.decode .optional (state.pending ++ visible pieces.flatten) = .ok bytes) :
    ∃ items : List (List UInt8), (state.drain (pieces.map .ok)).1 = items.map .ok ∧
      items.flatten = state.stream.apply state.position bytes := by
  induction pieces generalizing state bytes with
  | nil => exact drain_end hfinished ((congrArg _ (List.append_nil _)).symm.trans hcode)
  | cons piece pieces ih =>
    rw [append_visible_cons] at hcode
    by_cases hshort : (state.pending ++ visible piece).length < 4
    · rw [List.map_cons, drain_short hfinished hshort]
      exact @ih (state.extended piece) bytes hregular hfinished hcode
    · obtain ⟨front, back, htext, hfront, hwhole, hback⟩ := exists_batch (Nat.not_lt.1 hshort)
      rw [htext, List.append_assoc] at hcode
      obtain ⟨first, second, hfirst, hsecond, rfl⟩ := exists_decode_of_append hwhole hcode
      obtain ⟨items, hitems, hflatten⟩ := @ih { state with
        position := state.position + first.length, pending := back } second hregular hfinished
          hsecond
      refine ⟨state.stream.apply state.position first :: items, ?_, ?_⟩
      · rw [List.map_cons, drain_batch hfinished htext hfront hwhole hback hfirst, hitems,
          List.map_cons]
      · rw [List.flatten_cons, hflatten, Aes.Keystream.apply_append hregular]

/-- A body that reads as codes one behind another is decrypted without a fault; otherwise the last
    item is one, for which the body is malformed. -/
theorem drain_cases (hfinished : state.finished = false) (hpending : state.pending.length < 4)
    (pieces : List (List UInt8)) :
    ∃ items : List (List UInt8),
      (ReadsAsCodes state.pending pieces ∧ (state.drain (pieces.map .ok)).1 = items.map .ok) ∨
      (¬ ReadsAsCodes state.pending pieces ∧ ∃ fault,
        (state.drain (pieces.map .ok)).1 = items.map .ok ++ [.error (.malformed fault)]) := by
  induction pieces generalizing state with
  | nil =>
    rw [readsAsCodes_nil_iff hpending]
    cases hcode : Base64.decode .optional state.pending with
    | ok bytes =>
      obtain ⟨items, hitems, -⟩ := drain_end hfinished hcode
      exact ⟨items, .inl ⟨⟨bytes, hcode⟩, hitems⟩⟩
    | error fault =>
      exact ⟨[], .inr ⟨not_isCode_of_error hcode, fault, drain_end_malformed hfinished hcode⟩⟩
  | cons piece pieces ih =>
    rw [List.map_cons]
    by_cases hshort : (state.pending ++ visible piece).length < 4
    · have hrest := @ih (state.extended piece) hfinished hshort
      rwa [drain_short hfinished hshort, readsAsCodes_cons_short hshort]
    obtain ⟨front, back, htext, hfront, hwhole, hback⟩ := exists_batch (Nat.not_lt.1 hshort)
    rw [readsAsCodes_cons_batch hpending htext hwhole hback]
    cases hcode : Base64.decode .optional front with
    | error fault =>
      -- nothing behind a batch that is no code is looked at
      refine ⟨[], .inr ⟨fun hreads => not_isCode_of_error hcode hreads.1, fault, ?_⟩⟩
      exact drain_malformed hfinished htext hfront hwhole hback hcode _
    | ok bytes =>
      rw [drain_batch hfinished htext hfront hwhole hback hcode]
      obtain ⟨items, ⟨hreads, hitems⟩ | ⟨hreads, fault, hitems⟩⟩ := @ih { state with
        position := state.position + bytes.length, pending := back } hfinished hback
      · exact ⟨_ :: items, .inl ⟨⟨⟨bytes, hcode⟩, hreads⟩, by rw [hitems, List.map_cons]⟩⟩
      · exact ⟨_ :: items, .inr ⟨fun h => hreads h.2, fault,
          by rw [hitems, List.map_cons, List.cons_append]⟩⟩

end Decryptor

end Courier
