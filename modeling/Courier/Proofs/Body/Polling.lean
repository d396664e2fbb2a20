import Courier.Body.Decryptor

/-!
Asking for a decrypted body piece by piece. Whoever asks until there is no more is given what taking
in the whole body at once gives, and is given nothing from then on.
-/

namespace Courier.Decryptor

/-- Asking for pieces of a body that has arrived, until there is no more, gives these pieces and
    leads to this state. -/
inductive Gives : Decryptor → Body → Body → Decryptor → Prop
  | nothing {state last : Decryptor} {body rest : Body}
    (hpoll : state.poll true body = (.ready none, last, rest)) : Gives state body [] last
  | piece {state next last : Decryptor} {body rest given : Body} {piece : Piece}
    (hpoll : state.poll true body = (.ready (some piece), next, rest))
    (hrest : Gives next rest given last) : Gives state body (piece :: given) last

variable {state last : Decryptor} {body : Body}

theorem poll_of_finished (h : state.finished = true) (ended : Bool) (body : Body) :
    state.poll ended body = (.ready none, state, body) := by
  cases body <;> simp [poll, h]

theorem poll_nil (h : state.finished = false) :
    state.poll true [] = (.ready state.close.1, state.close.2, []) := by
  simp [poll, h]

theorem poll_nil_pending (h : state.finished = false) :
    state.poll false [] = (.pending, state, []) := by
  simp [poll, h]

/-- A piece that completes something ends a poll, any other is passed over. -/
theorem poll_cons (h : state.finished = false) (ended : Bool) (piece : Piece) (body : Body) :
    state.poll ended (piece :: body) = match (state.feed piece).1 with
      | some item => (.ready (some item), (state.feed piece).2, body)
      | none => (state.feed piece).2.poll ended body := by
  rw [poll, if_neg (by simp [h])]
  obtain ⟨_ | item, next⟩ := state.feed piece <;> rfl

theorem drain_of_finished (h : state.finished = true) (body : Body) :
    state.drain body = ([], state) := by
  cases body <;> simp [drain, h]

theorem drain_nil (h : state.finished = false) :
    state.drain [] = (state.close.1.toList, state.close.2) := by
  simp [drain, h]

theorem drain_cons (h : state.finished = false) (piece : Piece) (body : Body) :
    state.drain (piece :: body) = ((state.feed piece).1.toList ++
      ((state.feed piece).2.drain body).1, ((state.feed piece).2.drain body).2) := by
  simp [drain, h]

theorem close_finished (state : Decryptor) : state.close.2.finished = true := by
  unfold close
  split <;> rfl

/-- A body that has been taken in with its end is over. -/
theorem drain_finished (state : Decryptor) (body : Body) :
    (state.drain body).2.finished = true := by
  induction body generalizing state with
  | nil =>
    cases h : state.finished with
    | true => rw [drain_of_finished h, h]
    | false => rw [drain_nil h, close_finished]
  | cons piece body ih =>
    cases h : state.finished with
    | true => rw [drain_of_finished h, h]
    | false => rw [drain_cons h, ih]

theorem gives_of_finished (h : state.finished = true) (body : Body) : Gives state body [] state :=
  .nothing (poll_of_finished h true body)

theorem Gives.skip {piece : Piece} {given : Body} (hfinished : state.finished = false)
    (hfeed : (state.feed piece).1 = none) (h : Gives (state.feed piece).2 body given last) :
    Gives state (piece :: body) given last := by
  have hpoll : state.poll true (piece :: body) = (state.feed piece).2.poll true body := by
    rw [poll_cons hfinished, hfeed]
  cases h with
  | nothing hend => exact .nothing (hpoll.trans hend)
  | piece hpiece hrest => exact .piece (hpoll.trans hpiece) hrest

/-- Asking piece by piece gives what taking in the whole body gives. -/
theorem drain_gives (state : Decryptor) (body : Body) :
    Gives state body (state.drain body).1 (state.drain body).2 := by
  induction body generalizing state with
  | nil =>
    cases hfinished : state.finished with
    | true =>
      rw [drain_of_finished hfinished]
      exact gives_of_finished hfinished []
    | false =>
      rw [drain_nil hfinished]
      have hpoll := poll_nil hfinished
      generalize hclose : state.close = closed at hpoll
      obtain ⟨piece, next⟩ := closed
      have hnext : next.finished = true := by
        have := state.close_finished
        rwa [hclose] at this
      cases piece with
      | none => exact .nothing hpoll
      | some piece => exact .piece hpoll (gives_of_finished hnext [])
  | cons piece body ih =>
    cases hfinished : state.finished with
    | true =>
      rw [drain_of_finished hfinished]
      exact gives_of_finished hfinished _
    | false =>
      rw [drain_cons hfinished]
      have hrest := ih (state.feed piece).2
      cases hfeed : (state.feed piece).1 with
      | none => exact hrest.skip hfinished hfeed
      | some decrypted => exact .piece (by rw [poll_cons hfinished, hfeed]) hrest

/-- There is one answer to asking. -/
theorem Gives.eq {given given' : Body} {last' : Decryptor} (h : Gives state body given last)
    (h' : Gives state body given' last') : given = given' ∧ last = last' := by
  induction h generalizing given' last' with
  | nothing hpoll =>
    cases h' with
    | nothing hpoll' =>
      cases hpoll.symm.trans hpoll'
      exact ⟨rfl, rfl⟩
    | piece hpoll' => cases hpoll.symm.trans hpoll'
  | piece hpoll _ ih =>
    cases h' with
    | nothing hpoll' => cases hpoll.symm.trans hpoll'
    | piece hpoll' hrest' =>
      cases hpoll.symm.trans hpoll'
      obtain ⟨rfl, rfl⟩ := ih hrest'
      exact ⟨rfl, rfl⟩

end Courier.Decryptor
