import Courier.Proofs.Status.Racing
import Courier.Run.Closing

/-!
The end of a run. A successful run first finds out how its export has gone, and then reports that.
The calls deliver nothing but the success indicator, touch no object, and change a row only as a
worker that moves it on does.
-/

namespace Courier

open Program

/-- The calls at the end of a run. -/
inductive Closing.Asks (settings : Settings) : Call → Prop
  | deliver (headers : List (String × String)) :
    Asks settings (.deliver headers [.ok Indicator.body])
  | advance {call : Call} (hcall : (Tracker.ofSettings settings).Asks .advance call) :
    Asks settings call
  | rows : Asks settings (.rows settings.run.correlationId)
  | publish (arn message : String) : Asks settings (.publish arn message)

theorem postIndicator_makes {allowed : Call → Prop} (settings : Settings)
    (h : ∀ headers, allowed (.deliver headers [.ok Indicator.body])) :
    Makes allowed (postIndicator settings).run := by
  unfold postIndicator
  split
  · exact .done _
  · exact (Makes.retryIf (Call.makes_errand (h _))).orElse fun failure => .done _

namespace Closing

theorem publish_makes (settings : Settings) (completion : Completion) :
    Makes (Asks settings) (Notice.publish settings completion).run := by
  unfold Notice.publish
  split
  · exact .done _
  · split
    · exact .done _
    · refine Makes.orElse ?_ fun failure => .done _
      exact (Makes.retryIf (Call.makes_errand (.publish _ _))).andThen fun _ => .done _

/-- Moves the collection on, and posts the indicator if it had nothing to send. -/
def moveOn (settings : Settings) : Errand Unit := do
  let state ← (Tracker.ofSettings settings).advance
  if state = .noFiles then postIndicator settings

/-- Asks for the rows of the export. -/
def askRows (settings : Settings) : Errand (Option (List StatusRecord)) := do
  let records : List StatusRecord ←
    retry settings.retries.statusTable (Call.rows settings.run.correlationId).errand
  return some records

/-- What a successful run finds out at its end before it is reported: it posts the success indicator
    and nothing else, or moves its collection on and asks for the rows of its export. -/
def survey (settings : Settings) : Errand (Option (List StatusRecord)) :=
  if settings.handling.indicatorOnly then do
    postIndicator settings
    return none
  else do
    moveOn settings
    askRows settings

/-- The report of what has been found out. -/
def report (settings : Settings) : Option (List StatusRecord) → Errand Unit
  | none => return ()
  | some records => Notice.publish settings (.ofStatuses (records.map StatusRecord.status))

theorem complete_eq (settings : Settings) :
    complete settings = survey settings >>= report settings := by
  unfold complete survey
  cases settings.handling.indicatorOnly with
  | true =>
    simp only [if_true, LawfulMonad.bind_assoc, pure_bind]
    exact bind_pure_unit.symm
  | false =>
    simp only [Bool.false_eq_true, if_false, moveOn, LawfulMonad.bind_assoc]
    refine congrArg _ (funext fun state => ?_)
    have hrows : (do
        let completion ← (Tracker.ofSettings settings).completion
        Notice.publish settings completion : Errand Unit) =
          askRows settings >>= report settings := by
      simp only [Tracker.completion, askRows, LawfulMonad.bind_assoc, pure_bind]
      rfl
    by_cases hstate : state = .noFiles
    · simp only [hstate, if_true, hrows]
    · simp only [hstate, if_false, pure_bind, hrows]

theorem moveOn_makes {allowed : Call → Prop} (settings : Settings)
    (hdeliver : ∀ headers, allowed (.deliver headers [.ok Indicator.body]))
    (hadvance : ∀ call, (Tracker.ofSettings settings).Asks .advance call → allowed call) :
    Makes allowed (moveOn settings).run := by
  refine ((Tracker.ofSettings settings).advance_makes.mono hadvance).andThen fun state => ?_
  split
  · exact postIndicator_makes settings hdeliver
  · exact .done _

theorem complete_makes (settings : Settings) :
    Makes (Asks settings) (complete settings).run := by
  have hsurvey : Makes (Asks settings) (survey settings).run := by
    unfold survey
    split
    · exact (postIndicator_makes settings .deliver).andThen fun _ => .done _
    · refine (moveOn_makes settings .deliver fun _ => .advance).andThen fun _ => ?_
      exact (Makes.retryIf (Call.makes_errand .rows)).andThen fun _ => .done _
  rw [complete_eq]
  refine hsurvey.andThen fun found => ?_
  cases found with
  | none => exact .done _
  | some records => exact publish_makes settings _

theorem afterRun_makes (settings : Settings) (run : Except Failure Summary) :
    Makes (Asks settings) (afterRun settings run).run := by
  cases run with
  | error failure => exact publish_makes settings _
  | ok summary =>
    exact (complete_makes settings).orElse fun failure =>
      (publish_makes settings _).andThen fun _ => .done _

end Closing

end Courier
