import Courier.Proofs.Body.Decryption

/-!
A body that is decrypted while it arrives. However it arrives and however often it is asked for, the
decryptor holds the characters behind the last complete quantum of what it has taken, at most three,
and has given out the plaintext of the quanta in front of them. One poll takes pieces up to the
first one that completes a quantum, and none behind a fault or the end.
-/

namespace Courier

open Base64 (padByte)

namespace Sample

open Material

/-- A body that arrives in several goes, cut within its quanta. -/
def arriving : List Source :=
  [⟨[.ok (bytesOf "AAE"), .ok []], false⟩, ⟨[.ok (bytesOf "CAwQF\nBgc")], false⟩]

/-- The same body, which then breaks off. -/
def broken : List Source := arriving ++ [⟨[.error (.transport "reset"), .ok (bytesOf "I")], false⟩]

/-- A body that ends with a quantum of two characters. -/
def unfilled : List Source := [⟨[.ok (bytesOf "QUJDQQ")], true⟩, ⟨[], true⟩]

end Sample

/-- The characters of a body that are not blank; a fault has none. -/
def Body.text (body : Body) : List UInt8 :=
  body.flatMap fun
    | .ok piece => visible piece
    | .error _ => []

theorem Body.text_append (front back : Body) : (front ++ back).text = front.text ++ back.text :=
  List.flatMap_append

theorem Body.text_map_ok (pieces : List (List UInt8)) :
    Body.text (pieces.map .ok) = visible pieces.flatten := by
  induction pieces with
  | nil => rfl
  | cons piece pieces ih =>
    rw [List.flatten_cons, visible_append, ← ih]
    rfl

theorem isBlankByte_of_mem_text {body : Body} {b : UInt8} (h : b ∈ body.text) :
    Decryptor.isBlankByte b = false := by
  obtain ⟨piece, -, hb⟩ := List.mem_flatMap.1 h
  cases piece with
  | ok piece => simpa using (List.mem_filter.1 hb).2
  | error fault => cases hb

namespace Polled

/-- The plaintext that comes with an answer. -/
def bytes : Polled → List UInt8
  | .ready (some (.ok bytes)) => bytes
  | _ => []

def isFault : Polled → Bool
  | .ready (some (.error _)) => true
  | _ => false

/-- Whether the answer is a fault or the end. -/
def isLast : Polled → Bool
  | .ready none => true
  | answer => answer.isFault

theorem bytes_end : (ready none).bytes = [] := rfl

theorem bytes_pending : pending.bytes = [] := rfl

end Polled

namespace Decryptor

variable {state next : Decryptor} {stream : Aes.Keystream}

/-! ### One poll -/

theorem extended_nil (state : Decryptor) : state.extended [] = state := by
  rw [extended, visible, List.filter_nil, List.append_nil]

theorem extended_extended (state : Decryptor) (front back : List UInt8) :
    (state.extended front).extended back = state.extended (front ++ back) := by
  rw [extended, extended, extended, visible_append, List.append_assoc]

/-- How a poll stops, once the pieces are taken in that complete no quantum: it waits for more, it
    takes in the end, or it takes a piece that has it give something out. -/
inductive Stops (state : Decryptor) : Bool → Option Piece → Body → Polled → Decryptor → Prop
  | waits : Stops state false none [] .pending state
  | closes : Stops state true none [] (.ready state.close.1) state.close.2
  | gives {ended : Bool} {piece item : Piece} {rest : Body}
    (hitem : (state.feed piece).1 = some item) :
    Stops state ended (some piece) rest (.ready (some item)) (state.feed piece).2

/-- A poll takes the pieces in `front`, which complete no quantum, and stops behind them. -/
structure Polls (state : Decryptor) (ended : Bool) (body : Body) (front : List (List UInt8))
    (last : Option Piece) (rest : Body) (answer : Polled) (next : Decryptor) : Prop where
  poll_eq : state.poll ended body = (answer, next, rest)
  body_eq : body = front.map .ok ++ last.toList ++ rest
  short : (state.extended front.flatten).pending.length < 4
  stops : Stops (state.extended front.flatten) ended last rest answer next

theorem four_le_of_feed_some {piece : List UInt8} {item : Piece}
    (h : (state.feed (.ok piece)).1 = some item) : 4 ≤ (state.pending ++ visible piece).length := by
  refine Nat.not_lt.1 fun hshort => ?_
  rw [feed_short hshort] at h
  cases h

/-- A piece that has nothing given out is no fault and completes no quantum. -/
theorem exists_of_feed_none {piece : Piece} (h : (state.feed piece).1 = none) :
    ∃ bytes, piece = .ok bytes ∧ (state.extended bytes).pending.length < 4 := by
  cases piece with
  | error fault => cases h
  | ok bytes =>
    refine ⟨bytes, rfl, Nat.not_le.1 fun hlong => ?_⟩
    obtain ⟨front, back, htext, hfront, hwhole, hback⟩ := exists_batch hlong
    rw [feed_batch htext hfront hwhole hback] at h
    cases h

section Stops

variable {ended : Bool} {last : Option Piece} {rest : Body} {answer : Polled}

theorem Stops.exists_item (h : Stops state ended last rest answer next) {piece : Piece}
    (hlast : last = some piece) : ∃ item, (state.feed piece).1 = some item := by
  cases h with
  | waits | closes => cases hlast
  | gives hitem =>
    cases hlast
    exact ⟨_, hitem⟩

theorem Stops.rest_eq_nil (h : Stops state ended none rest answer next) : rest = [] := by
  cases h <;> rfl

theorem Stops.waits_iff (h : Stops state ended last rest answer next) :
    answer = .pending ↔ ended = false ∧ last = none := by
  cases h <;> simp

theorem Stops.polls (h : Stops state ended last rest answer next)
    (hshort : state.pending.length < 4) {body : Body} (hbody : body = last.toList ++ rest)
    (hpoll : state.poll ended body = (answer, next, rest)) :
    Polls state ended body [] last rest answer next := by
  have hstate : state.extended ([] : List (List UInt8)).flatten = state := extended_nil state
  exact ⟨hpoll, hbody, hstate.symm ▸ hshort, hstate.symm ▸ h⟩

theorem Polls.cons {bytes : List UInt8} {body : Body} {front : List (List UInt8)}
    (hfinished : state.finished = false) (hshort : (state.extended bytes).pending.length < 4)
    (h : Polls (state.extended bytes) ended body front last rest answer next) :
    Polls state ended (.ok bytes :: body) (bytes :: front) last rest answer next := by
  obtain ⟨hpoll, rfl, hnext, hstops⟩ := h
  rw [extended_extended, ← List.flatten_cons] at hnext hstops
  refine ⟨?_, rfl, hnext, hstops⟩
  rw [poll_cons hfinished, feed_short hshort]
  exact hpoll

/-- Every poll in the middle of a body takes pieces as far as they complete no quantum, and stops
    behind them. -/
theorem exists_polls (hfinished : state.finished = false) (hshort : state.pending.length < 4)
    (ended : Bool) (body : Body) :
    ∃ front last rest answer next, Polls state ended body front last rest answer next := by
  induction body generalizing state with
  | nil =>
    cases ended with
    | false => exact ⟨_, _, _, _, _, Stops.waits.polls hshort rfl (poll_nil_pending hfinished)⟩
    | true => exact ⟨_, _, _, _, _, Stops.closes.polls hshort rfl (poll_nil hfinished)⟩
  | cons piece body ih =>
    cases hfeed : (state.feed piece).1 with
    | some item =>
      refine ⟨_, _, _, _, _, (Stops.gives hfeed).polls hshort rfl ?_⟩
      rw [poll_cons hfinished, hfeed]
    | none =>
      obtain ⟨bytes, rfl, hnext⟩ := exists_of_feed_none hfeed
      obtain ⟨front, last, rest, answer, next, hpolls⟩ :=
        @ih (state.extended bytes) hfinished hnext
      exact ⟨_, _, _, _, _, hpolls.cons hfinished hnext⟩

end Stops

/-! ### What has been decrypted -/

/-- The code has been decrypted, `given` is its plaintext, and the keystream stands behind it. -/
structure Decrypted (stream : Aes.Keystream) (state : Decryptor) (code given : List UInt8) :
    Prop where
  stream_eq : state.stream = stream
  exists_bytes : ∃ bytes, Base64.decode .optional code = .ok bytes ∧
    state.position = bytes.length ∧ given = stream.apply 0 bytes

/-- More code behind whole quanta without a `=` is decrypted behind them. -/
theorem Decrypted.append {whole code given bytes : List UInt8} (hregular : stream.Regular)
    (h : Decrypted stream state whole given) (hwhole : whole.length % 4 = 0)
    (hpad : padByte ∉ whole) (hcode : Base64.decode .optional code = .ok bytes) (hne : code ≠ [])
    (hstream : next.stream = state.stream)
    (hposition : next.position = state.position + bytes.length) :
    Decrypted stream next (whole ++ code) (given ++ state.stream.apply state.position bytes) := by
  obtain ⟨rfl, first, hfirst, hstate, rfl⟩ := h
  refine ⟨hstream, first ++ bytes, ?_, ?_, ?_⟩
  · exact (Base64.decode_append_eq_ok_iff hne hwhole).2 ⟨hpad, first, bytes, hfirst, hcode, rfl⟩
  · rw [hposition, hstate, List.length_append]
  · rw [Aes.Keystream.apply_append hregular, Nat.zero_add, hstate]

theorem Decrypted.extended {code given : List UInt8} (h : Decrypted stream state code given)
    {piece : List UInt8} : Decrypted stream (state.extended piece) code given :=
  ⟨h.stream_eq, h.exists_bytes⟩

theorem Decrypted.length {code given : List UInt8} (hregular : stream.Regular)
    (h : Decrypted stream state code given) (hpad : padByte ∉ code) :
    state.position = given.length ∧ given.length = 3 * code.length / 4 := by
  obtain ⟨-, bytes, hbytes, hposition, rfl⟩ := h
  rw [Aes.Keystream.length_apply hregular, hposition, Base64.length_of_decode hpad hbytes]
  exact ⟨rfl, rfl⟩

/-- In the middle of a body: behind the quanta of `text` at most three characters are held, and
    `given` is the plaintext of the quanta. -/
structure Running (stream : Aes.Keystream) (state : Decryptor) (text given : List UInt8) :
    Prop where
  finished : state.finished = false
  short : state.pending.length < 4
  quanta : ∃ whole, text = whole ++ state.pending ∧ whole.length % 4 = 0 ∧
    (padByte ∉ whole → Decrypted stream state whole given)

section Running

variable {text given : List UInt8}

theorem running_start (stream : Aes.Keystream) : Running stream (start stream) [] [] where
  finished := rfl
  short := Nat.zero_lt_succ 3
  quanta := ⟨[], rfl, rfl, fun _ => ⟨rfl, [], Base64.decode_nil, rfl, rfl⟩⟩

theorem Running.extended (h : Running stream state text given) {piece : List UInt8}
    (hshort : (state.extended piece).pending.length < 4) :
    Running stream (state.extended piece) (text ++ visible piece) given := by
  obtain ⟨hfinished, -, whole, rfl, hwhole, hplain⟩ := h
  exact ⟨hfinished, hshort, whole, List.append_assoc .., hwhole, fun hpad => (hplain hpad).extended⟩

theorem Running.quanta_extended (h : Running stream state text given) {piece : List UInt8}
    (hshort : (state.extended piece).pending.length < 4) :
    (text ++ visible piece).length / 4 = text.length / 4 := by
  obtain ⟨-, hpending, whole, rfl, hwhole, -⟩ := h
  simp only [Decryptor.extended, List.length_append] at hshort ⊢
  omega

theorem Running.quanta_lt (h : Running stream state text given) {piece : List UInt8}
    (hlong : 4 ≤ (state.pending ++ visible piece).length) :
    text.length / 4 < (text ++ visible piece).length / 4 := by
  obtain ⟨-, hpending, whole, rfl, hwhole, -⟩ := h
  simp only [List.length_append] at hlong ⊢
  omega

/-- What is held are the last characters, as many as there are behind the last quantum. -/
theorem Running.pending_suffix (h : Running stream state text given) :
    state.pending <:+ text ∧ state.pending.length = text.length % 4 := by
  obtain ⟨-, hpending, whole, rfl, hwhole, -⟩ := h
  refine ⟨List.suffix_append whole _, ?_⟩
  rw [List.length_append]
  omega

/-- The quanta are the text in front of what is held. -/
theorem Running.decrypted (h : Running stream state text given)
    (hpad : padByte ∉ text) : Decrypted stream state (text.take (4 * (text.length / 4))) given := by
  obtain ⟨-, hpending, whole, rfl, hwhole, hplain⟩ := h
  have hcount : 4 * ((whole ++ state.pending).length / 4) = whole.length := by
    rw [List.length_append]
    omega
  rw [hcount, List.take_left]
  exact hplain fun hmem => hpad (List.mem_append_left _ hmem)

/-- A piece that has something given out is a fault, or completes quanta and has their plaintext
    given out or a fault. -/
theorem Running.feed (hregular : stream.Regular) (h : Running stream state text given)
    {piece item : Piece} (hfeed : (state.feed piece).1 = some item) :
    (∃ fault, item = .error fault ∧ (state.feed piece).2.finished = true) ∨
    ∃ bytes, item = .ok bytes ∧
      Running stream (state.feed piece).2 (text ++ Body.text [piece]) (given ++ bytes) := by
  obtain ⟨hfinished, -, whole, rfl, hwhole, hplain⟩ := h
  cases piece with
  | error fault =>
    cases hfeed
    exact .inl ⟨fault, rfl, rfl⟩
  | ok piece =>
    obtain ⟨front, back, htext, hfront, hquanta, hback⟩ :=
      exists_batch (four_le_of_feed_some hfeed)
    rw [feed_batch htext hfront hquanta hback] at hfeed ⊢
    cases hcode : Base64.decode .optional front with
    | error fault =>
      -- the batch stays in what is held, which no longer matters
      rw [decode_of_error ((congrArg _ (take_extended htext)).trans hcode)] at hfeed ⊢
      cases hfeed
      exact .inl ⟨_, rfl, rfl⟩
    | ok bytes =>
      rw [decode_of_ok ((congrArg _ (take_extended htext)).trans hcode)] at hfeed ⊢
      cases hfeed
      have hpending : (state.extended piece).pending.drop front.length = back := by
        rw [Decryptor.extended, htext, List.drop_left]
      refine .inr ⟨_, rfl, hfinished, ?_, whole ++ front, ?_, ?_, fun hpads => ?_⟩
      · rwa [hpending]
      · rw [hpending, List.append_assoc, List.append_assoc, ← htext, Body.text,
          List.flatMap_singleton]
      · rw [List.length_append]
        omega
      · have hpad : padByte ∉ whole := fun hmem => hpads (List.mem_append_left _ hmem)
        exact (hplain hpad).extended.append hregular hwhole hpad hcode hfront rfl rfl

/-- At the end the characters that are held are decrypted, or a fault is given out. -/
theorem Running.close (hregular : stream.Regular) (h : Running stream state text given)
    (hfault : (Polled.ready state.close.1).isFault = false) (hpad : padByte ∉ text) :
    Decrypted stream state.close.2 text (given ++ (Polled.ready state.close.1).bytes) := by
  obtain ⟨hfinished, -, whole, rfl, hwhole, hplain⟩ := h
  have hdecrypted := hplain fun hmem => hpad (List.mem_append_left _ hmem)
  by_cases hempty : state.pending.isEmpty
  · rw [Decryptor.close, if_pos hempty, List.isEmpty_iff.1 hempty, List.append_nil,
      Polled.bytes_end, List.append_nil]
    exact ⟨hdecrypted.stream_eq, hdecrypted.exists_bytes⟩
  · have hpending : state.pending ≠ [] := fun hnil => hempty (List.isEmpty_iff.2 hnil)
    rw [Decryptor.close, if_neg hempty] at hfault ⊢
    cases hcode : Base64.decode .optional state.pending with
    | error fault =>
      rw [decode_of_error ((congrArg _ List.take_length).trans hcode)] at hfault
      cases hfault
    | ok bytes =>
      rw [decode_of_ok ((congrArg _ List.take_length).trans hcode)]
      exact hdecrypted.append hregular hwhole (fun hmem => hpad (List.mem_append_left _ hmem)) hcode
        hpending rfl rfl

end Running

/-! ### Poll after poll -/

/-- A body in the course of being asked for. -/
structure Course where
  state : Decryptor
  /-- The pieces that have arrived and have not been taken. -/
  waiting : Body
  /-- The pieces that have been taken. -/
  taken : Body
  answers : List Polled

namespace Course

variable {course : Course} {source : Source}

def start (stream : Aes.Keystream) : Course := ⟨.start stream, [], [], []⟩

/-- Asks once more, with what `source` holds behind what is waiting. -/
def ask (course : Course) (source : Source) : Course :=
  let body := course.waiting ++ source.arrived
  let (answer, state, rest) := course.state.poll source.ended body
  ⟨state, rest, course.taken ++ body.take (body.length - rest.length), course.answers ++ [answer]⟩

/-- Asks again and again, each time with what has arrived since. -/
def asks (course : Course) (sources : List Source) : Course := sources.foldl ask course

/-- The characters taken, without the blanks. -/
def text (course : Course) : List UInt8 := course.taken.text

/-- The plaintext given out. -/
def given (course : Course) : List UInt8 := course.answers.flatMap Polled.bytes

/-- No fault has been given out. -/
def Faultless (course : Course) : Prop := ∀ answer ∈ course.answers, answer.isFault = false

theorem ask_of_poll {answer : Polled} {state : Decryptor} {used rest : Body}
    (hpoll : course.state.poll source.ended (course.waiting ++ source.arrived) =
      (answer, state, rest)) (hused : course.waiting ++ source.arrived = used ++ rest) :
    course.ask source = ⟨state, rest, course.taken ++ used, course.answers ++ [answer]⟩ := by
  have htake : (used ++ rest).take ((used ++ rest).length - rest.length) = used := by
    rw [List.length_append, Nat.add_sub_cancel, List.take_left]
  rw [ask]
  simp only [hpoll]
  rw [hused, htake]

theorem ask_of_finished (h : course.state.finished = true) (source : Source) :
    course.ask source = { course with
      waiting := course.waiting ++ source.arrived
      answers := course.answers ++ [.ready none] } := by
  rw [ask_of_poll (poll_of_finished h _ _) (List.nil_append _).symm, List.append_nil]

theorem exists_polls (h : Running stream course.state course.text course.given)
    (source : Source) :
    ∃ front last rest answer next, Polls course.state source.ended
        (course.waiting ++ source.arrived) front last rest answer next ∧
      course.ask source = ⟨next, rest, course.taken ++ (front.map .ok ++ last.toList),
        course.answers ++ [answer]⟩ := by
  obtain ⟨front, last, rest, answer, next, hpolls⟩ := Decryptor.exists_polls h.finished h.short
    source.ended (course.waiting ++ source.arrived)
  exact ⟨front, last, rest, answer, next, hpolls, ask_of_poll hpolls.poll_eq hpolls.body_eq⟩

theorem text_taken (course : Course) (front : List (List UInt8)) (last : Option Piece) :
    Body.text (course.taken ++ (front.map .ok ++ last.toList)) =
      course.text ++ visible front.flatten ++ Body.text last.toList := by
  rw [Body.text_append, Body.text_append, Body.text_map_ok, text, List.append_assoc]

theorem given_answered (course : Course) (answer : Polled) :
    (course.answers ++ [answer]).flatMap Polled.bytes = course.given ++ answer.bytes := by
  rw [List.flatMap_append, List.flatMap_singleton, given]

/-- A body is in the middle, and nothing final has been given out. Or it is over, for a fault or
    because it has ended, and without a fault all of its text has been decrypted. -/
inductive Sound (stream : Aes.Keystream) (ended : Bool) (course : Course) : Prop
  | running (hrunning : Running stream course.state course.text course.given)
    (hanswers : ∀ answer ∈ course.answers, answer.isLast = false)
  | closed (hfinished : course.state.finished = true) (hcause : course.Faultless → ended = true)
    (hplain : course.Faultless → padByte ∉ course.text →
      Decrypted stream course.state course.text course.given)

section Sound

variable {ended : Bool}

theorem sound_start (stream : Aes.Keystream) : Sound stream false (start stream) :=
  .running (running_start stream) nofun

theorem Sound.ask (hregular : stream.Regular) (h : Sound stream ended course) (source : Source) :
    Sound stream (ended || source.ended) (course.ask source) := by
  cases h with
  | closed hfinished hcause hplain =>
    rw [ask_of_finished hfinished]
    have hearlier (hfaultless : ∀ answer ∈ course.answers ++ [.ready none],
        answer.isFault = false) : course.Faultless :=
      fun answer hanswer => hfaultless answer (List.mem_append_left _ hanswer)
    refine .closed hfinished (fun hfaultless => ?_) fun hfaultless hpad => ?_
    · rw [hcause (hearlier hfaultless), Bool.true_or]
    · rw [given, given_answered, Polled.bytes_end, List.append_nil]
      exact hplain (hearlier hfaultless) hpad
  | running hrunning hanswers =>
    obtain ⟨front, last, rest, answer, next, ⟨-, -, hshort, hstops⟩, hask⟩ :=
      exists_polls hrunning source
    have hpassed := hrunning.extended hshort
    have htext := course.text_taken front last
    have hgiven := course.given_answered answer
    have hmem : answer ∈ course.answers ++ [answer] :=
      List.mem_append_right _ (List.mem_singleton_self answer)
    have hsnoc (h : answer.isLast = false) : ∀ other ∈ course.answers ++ [answer],
        other.isLast = false := fun other hother =>
      (List.mem_append.1 hother).elim (hanswers other) fun hlast => List.mem_singleton.1 hlast ▸ h
    have hnone : Body.text (none : Option Piece).toList = [] := rfl
    generalize source.ended = closed at hstops
    rw [hask]
    -- behind the pieces that complete nothing the decryptor is still in the middle of the body
    cases hstops with
    | waits =>
      refine .running ?_ (hsnoc rfl)
      rw [text, given, htext, hgiven, hnone, Polled.bytes_pending, List.append_nil, List.append_nil]
      exact hpassed
    | closes =>
      refine .closed (close_finished _) (fun _ => Bool.or_true ended) fun hfaultless hpad => ?_
      rw [text, htext, hnone, List.append_nil] at hpad ⊢
      rw [given, hgiven]
      exact hpassed.close hregular (hfaultless _ hmem) hpad
    | gives hitem =>
      obtain ⟨fault, rfl, hfinished⟩ | ⟨bytes, rfl, hnext⟩ := hpassed.feed hregular hitem
      · have hfaulty (hfaultless : ∀ answer ∈ course.answers ++ [_], answer.isFault = false) :
            False := nomatch hfaultless _ hmem
        exact .closed hfinished (fun h => (hfaulty h).elim) fun h => (hfaulty h).elim
      · refine .running ?_ (hsnoc rfl)
        rw [text, given, htext, hgiven]
        exact hnext

theorem Sound.asks (hregular : stream.Regular) (h : Sound stream ended course)
    (sources : List Source) :
    Sound stream (ended || sources.any Source.ended) (course.asks sources) := by
  -- what has ended by now only grows, so the invariant is carried for any start
  induction sources generalizing course ended with
  | nil =>
    rw [List.any_nil, Bool.or_false]
    exact h
  | cons source sources ih =>
    rw [List.any_cons, ← Bool.or_assoc]
    exact ih (h.ask hregular source)

theorem Sound.finished_of_isLast (h : Sound stream ended course)
    (hlast : ∃ answer ∈ course.answers, answer.isLast = true) : course.state.finished = true := by
  cases h with
  | closed hfinished => exact hfinished
  | running _ hanswers =>
    obtain ⟨answer, hanswer, htrue⟩ := hlast
    cases (hanswers answer hanswer).symm.trans htrue

theorem Sound.unfinished (h : Sound stream false course) (hfaultless : course.Faultless) :
    course.state.finished = false := by
  cases h with
  | running hrunning => exact hrunning.finished
  | closed _ hcause => cases hcause hfaultless

theorem Sound.running_of_unfinished (h : Sound stream ended course)
    (hfinished : course.state.finished = false) :
    Running stream course.state course.text course.given := by
  cases h with
  | running hrunning => exact hrunning
  | closed hover => cases hover.symm.trans hfinished

/-- The characters that have been decoded: those of the complete quanta, and all of them when the
    end has been taken in. -/
def decoded (course : Course) : List UInt8 :=
  if course.state.finished then course.text else course.text.take (4 * (course.text.length / 4))

theorem Sound.decrypted (h : Sound stream ended course) (hfaultless : course.Faultless)
    (hpad : padByte ∉ course.text) :
    Decrypted stream course.state course.decoded course.given := by
  cases h with
  | running hrunning =>
    rw [decoded, if_neg (by rw [hrunning.finished]; nofun)]
    exact hrunning.decrypted hpad
  | closed hfinished _ hplain =>
    rw [decoded, if_pos hfinished]
    exact hplain hfaultless hpad

theorem mem_text_of_mem_decoded {b : UInt8} (h : b ∈ course.decoded) : b ∈ course.text := by
  unfold decoded at h
  split at h
  · exact h
  · exact List.mem_of_mem_take h

theorem length_decoded (course : Course) : 3 * course.decoded.length / 4 =
    if course.state.finished then 3 * course.text.length / 4 else 3 * (course.text.length / 4) := by
  unfold decoded
  split
  · rfl
  · rw [List.length_take]
    omega

/-- `front` and `last` are what one more poll takes. -/
structure Takes (course : Course) (source : Source) (front : List (List UInt8))
    (last : Option Piece) : Prop where
  arrived : course.waiting ++ source.arrived =
    front.map .ok ++ last.toList ++ (course.ask source).waiting
  taken : (course.ask source).taken = course.taken ++ (front.map .ok ++ last.toList)
  /-- The pieces in front complete no quantum. -/
  short : (course.text ++ visible front.flatten).length / 4 = course.text.length / 4
  /-- The last piece completes one, or it is a fault. -/
  stops : ∀ piece ∈ last, (∃ fault, piece = .error fault) ∨
    course.text.length / 4 < (course.ask source).text.length / 4
  /-- Without such a piece all that has arrived is taken. -/
  rest : course.state.finished = false → last = none → (course.ask source).waiting = []
  waits : (course.ask source).answers = course.answers ++ [.pending] ↔
    course.state.finished = false ∧ source.ended = false ∧ last = none
  /-- The body is over when its end has been taken in, or a fault has been given out. -/
  ends : course.state.finished = false → ((course.ask source).state.finished = true ↔
    (source.ended = true ∧ last = none) ∨
      ∃ fault, (course.ask source).answers = course.answers ++ [.ready (some (.error fault))])

theorem takes_of_finished (h : course.state.finished = true) (source : Source) :
    course.Takes source [] none where
  arrived := by
    rw [ask_of_finished h]
    rfl
  taken := by
    rw [ask_of_finished h]
    exact (List.append_nil _).symm
  short := congrArg (List.length · / 4) (List.append_nil _)
  stops := nofun
  rest := fun hfinished => by cases h.symm.trans hfinished
  waits := by simp [ask_of_finished h, h]
  ends := fun hfinished => by cases h.symm.trans hfinished

theorem Sound.takes (hregular : stream.Regular) (h : Sound stream ended course)
    (source : Source) : ∃ front last, course.Takes source front last := by
  cases h with
  | closed hfinished => exact ⟨[], none, takes_of_finished hfinished source⟩
  | running hrunning =>
    obtain ⟨front, last, rest, answer, next, ⟨-, harrived, hshort, hstops⟩, hask⟩ :=
      exists_polls hrunning source
    have hquanta := hrunning.quanta_extended hshort
    have hpassed := hrunning.extended hshort
    refine ⟨front, last, ?_, ?_, hquanta, fun piece hlast => ?_, fun _ hlast => ?_, ?_, fun _ => ?_⟩
    · rw [hask, harrived]
    · rw [hask]
    · obtain ⟨item, hitem⟩ := hstops.exists_item hlast
      cases piece with
      | error fault => exact .inl ⟨fault, rfl⟩
      | ok piece =>
        have htext : (course.ask source).text =
            course.text ++ visible front.flatten ++ visible piece := by
          rw [hask, text, course.text_taken, hlast]
          exact congrArg _ (List.append_nil _)
        rw [htext, ← hquanta]
        exact .inr (hpassed.quanta_lt (four_le_of_feed_some hitem))
    · rw [hask]
      subst hlast
      exact hstops.rest_eq_nil
    · rw [hask, List.append_cancel_left_eq, List.cons.injEq, and_iff_left rfl, hstops.waits_iff,
        and_iff_right hrunning.finished]
    · generalize source.ended = closed at hstops
      rw [hask]
      cases hstops with
      | waits => simp [hpassed.finished]
      | closes => simp [close_finished]
      | gives hitem =>
        obtain ⟨fault, rfl, hfinished⟩ | ⟨bytes, rfl, hnext⟩ := hpassed.feed hregular hitem
        · simp [hfinished]
        · simp [hnext.finished]

end Sound

open Material

/-- However a body arrives and however often it is asked for: until it is over, the last characters
    that complete no quantum are held. Without a `=` and a fault three bytes have been given out to
    each quantum, and the keystream stands behind them; at the end the characters held add one or
    two. A poll takes pieces up to the first that completes a quantum, and after a fault or the end
    it takes none. -/
theorem state_of_asks {material : Material} (hmaterial : material.keystream = .ok stream)
    (sources : List Source) :
    let course := (start stream).asks sources
    (course.Faultless → (∀ source ∈ sources, source.ended = false) →
      course.state.finished = false) ∧
    (course.state.finished = false →
      course.state.pending <:+ course.text ∧
      course.state.pending.length = course.text.length % 4 ∧ course.state.pending.length ≤ 3 ∧
      ∀ b ∈ course.state.pending, isBlankByte b = false) ∧
    (course.Faultless → padByte ∉ course.text →
      course.state.stream = stream ∧ course.state.position = course.given.length ∧
      course.given.length = (if course.state.finished then 3 * course.text.length / 4
        else 3 * (course.text.length / 4)) ∧
      ∃ bytes, Base64.decode .optional course.decoded = .ok bytes ∧
        course.given = stream.apply 0 bytes) ∧
    (∀ source, ∃ front last, course.Takes source front last) ∧
    ((∃ answer ∈ course.answers, answer.isLast = true) → ∀ source,
      course.ask source = { course with
        waiting := course.waiting ++ source.arrived
        answers := course.answers ++ [.ready none] }) := by
  intro course
  obtain ⟨counter, -, -, hkey, rfl⟩ := exists_counter hmaterial
  have hregular := Aes.Keystream.regular_ofKey (four_le_of_mem hkey) counter
  have hsound := (sound_start _).asks hregular sources
  refine ⟨fun hfaultless hended => ?_, fun hfinished => ?_, fun hfaultless hpad => ?_,
    hsound.takes hregular, fun hlast => ask_of_finished (hsound.finished_of_isLast hlast)⟩
  · have hany : sources.any Source.ended = false :=
      List.any_eq_false.2 fun source hsource => by rw [hended source hsource]; nofun
    rw [Bool.false_or, hany] at hsound
    exact hsound.unfinished hfaultless
  · have hrunning := hsound.running_of_unfinished hfinished
    obtain ⟨hsuffix, hlength⟩ := hrunning.pending_suffix
    exact ⟨hsuffix, hlength, Nat.le_of_lt_succ hrunning.short,
      fun b hb => isBlankByte_of_mem_text (hsuffix.subset hb)⟩
  · have hdecrypted := hsound.decrypted hfaultless hpad
    obtain ⟨hposition, hlength⟩ :=
      hdecrypted.length hregular fun hmem => hpad (mem_text_of_mem_decoded hmem)
    obtain ⟨hstream, bytes, hbytes, -, hgiven⟩ := hdecrypted
    exact ⟨hstream, hposition, hlength.trans course.length_decoded, bytes, hbytes, hgiven⟩

theorem state_of_asks_arriving :
    Sample.wrapping.keystream = .ok Sample.wrappingStream ∧
    (let course := (start Sample.wrappingStream).asks Sample.arriving
    course.Faultless ∧ course.state.finished = false ∧ course.text = bytesOf "AAECAwQFBgc" ∧
      course.state.pending.length = 3 ∧ course.state.position = 6 ∧ course.given.length = 6) ∧
    ∀ source, (((start Sample.wrappingStream).asks Sample.broken).ask source).waiting =
      .ok (bytesOf "I") :: source.arrived := by
  obtain ⟨hopen, hheld, hcount, -, -⟩ := state_of_asks Sample.keystream_wrapping Sample.arriving
  obtain ⟨-, -, -, -, hover⟩ := state_of_asks Sample.keystream_wrapping Sample.broken
  have hfaultless : ((start Sample.wrappingStream).asks Sample.arriving).Faultless := by
    unfold Faultless
    decide +kernel
  have htext : ((start Sample.wrappingStream).asks Sample.arriving).text =
      bytesOf "AAECAwQFBgc" := by decide +kernel
  have hfinished := hopen hfaultless (by decide)
  obtain ⟨-, hlength, -⟩ := hheld hfinished
  obtain ⟨-, hposition, hgiven, -⟩ := hcount hfaultless (by rw [htext]; decide +kernel)
  rw [htext] at hlength
  rw [hfinished, htext] at hgiven
  refine ⟨Sample.keystream_wrapping, ⟨hfaultless, hfinished, htext, ?_, ?_, ?_⟩, fun source => ?_⟩
  · exact hlength.trans (by decide +kernel)
  · exact (hposition.trans hgiven).trans (by decide +kernel)
  · exact hgiven.trans (by decide +kernel)
  · rw [hover (by decide +kernel) source]
    have hwaiting : ((start Sample.wrappingStream).asks Sample.broken).waiting =
        [.ok (bytesOf "I")] := by decide +kernel
    rw [hwaiting]
    rfl

/-- A quantum that is not filled up at the end of a body is decrypted as well, before the end itself
    or a fault is given out. -/
theorem given_unfilled :
    Sample.wrapping.keystream = .ok Sample.wrappingStream ∧
    let course := (start Sample.wrappingStream).asks Sample.unfilled
    (∀ answer ∈ course.answers, answer.isLast = false) ∧ padByte ∉ course.text ∧
      course.text.length = 6 ∧ course.given.length = 4 ∧
      course.given.length ≠ 3 * (course.text.length / 4) ∧
      course.state.pending.length ≠ course.text.length % 4 := by
  refine ⟨Sample.keystream_wrapping, ?_, ?_, ?_, ?_, ?_, ?_⟩ <;> decide +kernel

end Course

end Decryptor

end Courier
