import Courier.Proofs.Text.Pattern

/-!
The match at the start of a text. A pattern without an end finds the first of the ways in which it
can begin the text. A greedy run in it is as long as possible whenever what follows cannot begin
with a character of the run, so such a pattern reads without going back.
-/

namespace Courier

open Text

namespace CharClass

variable {cls : CharClass} {cs : List Char}

theorem remainders_eq_nil (h : cs.takeWhile cls.has = []) : cls.remainders cs = [] := by
  cases cs with
  | nil => rfl
  | cons c cs =>
    refine if_neg fun hc => ?_
    rw [List.takeWhile_cons_of_pos hc] at h
    cases h

/-- The longest run comes last, and every shorter one leaves a character of the class. -/
theorem exists_remainders_eq (h : cs.takeWhile cls.has ≠ []) :
    ∃ before, cls.remainders cs = before ++ [cs.dropWhile cls.has] ∧
      ∀ rest ∈ before, ∃ c tail, rest = c :: tail ∧ cls.has c = true := by
  induction cs with
  | nil => exact absurd rfl h
  | cons c cs ih =>
    by_cases hc : cls.has c = true
    · rw [remainders, if_pos hc, List.dropWhile_cons_of_pos hc]
      by_cases hrun : cs.takeWhile cls.has = []
      · rw [remainders_eq_nil hrun]
        have hdrop := List.takeWhile_append_dropWhile (p := cls.has) (l := cs)
        rw [hrun, List.nil_append] at hdrop
        exact ⟨[], by rw [hdrop]; rfl, fun _ hrest => absurd hrest List.not_mem_nil⟩
      · obtain ⟨before, hbefore, hclass⟩ := ih hrun
        refine ⟨cs :: before, by rw [hbefore]; rfl, List.forall_mem_cons.2 ⟨?_, hclass⟩⟩
        cases cs with
        | nil => exact absurd rfl hrun
        | cons d tail =>
          exact ⟨d, tail, rfl, Decidable.not_not.1 fun hd => hrun (List.takeWhile_cons_of_neg hd)⟩
    · exact absurd (List.takeWhile_cons_of_neg hc) h

/-- Among the rests behind the runs of a class, tried from the longest run on, only the first can
    be gone on with by what does not begin in that class. -/
theorem findSome?_remainders {β : Type} {f : List Char → Option β}
    (hf : ∀ c tail, cls.has c = true → f (c :: tail) = none) :
    (cls.remainders cs).reverse.findSome? f =
      if cs.takeWhile cls.has = [] then none else f (cs.dropWhile cls.has) := by
  split
  · next h => rw [remainders_eq_nil h]; rfl
  · next h =>
    obtain ⟨before, hrests, hbefore⟩ := exists_remainders_eq h
    have hnone : before.reverse.findSome? f = none := by
      rw [List.findSome?_eq_none_iff]
      intro rest hrest
      obtain ⟨c, tail, rfl, hc⟩ := hbefore rest (List.mem_reverse.1 hrest)
      exact hf c tail hc
    rw [hrests, List.reverse_append, List.reverse_singleton, List.singleton_append,
      List.findSome?_cons, hnone]
    cases f (cs.dropWhile cls.has) <;> rfl

end CharClass

namespace Pattern

variable {cls : CharClass} {c : Char} {cs : List Char} {p q : Pattern} {name : String}

/-- What the preferred match at the start of a text captures. -/
def begins? (p : Pattern) (cs : List Char) : Option Captures := (p.candidates cs).head?.map (·.1)

theorem begins?_append : (p ++ q).begins? cs =
    (p.candidates cs).findSome? fun (captures, rest) => (q.begins? rest).map (captures ++ ·) := by
  change Option.map _ ((p.candidates cs).flatMap _).head? = _
  rw [List.head?_flatMap, List.map_findSome?]
  refine congrArg (List.findSome? · _) (funext fun candidate => ?_)
  simp only [Function.comp_apply, List.head?_map, Option.map_map, begins?]
  rfl

/-- An optional part is left out only if it does not lead to a match. -/
theorem begins?_maybe_append :
    (maybe p ++ q).begins? cs = ((p ++ q).begins? cs).or (q.begins? cs) := by
  rw [begins?_append, begins?_append, candidates, List.findSome?_append]
  cases h : q.begins? cs <;> simp [h]

theorem begins?_append_assoc {r : Pattern} :
    (p ++ q ++ r).begins? cs = (p ++ (q ++ r)).begins? cs := by
  have hassoc : (p ++ q ++ r).candidates cs = (p ++ (q ++ r)).candidates cs := by
    change ((p.candidates cs).flatMap _).flatMap _ = (p.candidates cs).flatMap _
    rw [List.flatMap_assoc]
    refine congrArg (List.flatMap · _) (funext fun candidate => ?_)
    change ((q.candidates candidate.2).map _).flatMap _ =
      ((q.candidates candidate.2).flatMap _).map _
    rw [List.flatMap_map, List.map_flatMap]
    refine congrArg (List.flatMap · _) (funext fun candidate => ?_)
    simp
  rw [begins?, hassoc, begins?]

theorem begins?_one_append : (one (.only c) ++ p).begins? cs =
    match cs with
    | [] => none
    | d :: rest => if d = c then p.begins? rest else none := by
  rw [begins?_append]
  cases cs with
  | nil => rfl
  | cons d rest =>
    by_cases hd : d = c
    · simp [candidates, CharClass.has, hd]
    · simp [candidates, CharClass.has, hd]

/-- A greedy run is as long as possible before what does not begin in its class. -/
theorem begins?_many_append (hq : ∀ c tail, cls.has c = true → q.begins? (c :: tail) = none) :
    (many cls false ++ q).begins? cs =
      if cs.takeWhile cls.has = [] then none else q.begins? (cs.dropWhile cls.has) := by
  rw [begins?_append, ← CharClass.findSome?_remainders hq, candidates, List.findSome?_map]
  refine congrArg (List.findSome? · _) (funext fun rest => ?_)
  simp

theorem take_length_sub_dropWhile (member : Char → Bool) (cs : List Char) :
    cs.take (cs.length - (cs.dropWhile member).length) = cs.takeWhile member := by
  obtain ⟨hsplit, hlength⟩ : cs.takeWhile member ++ cs.dropWhile member = cs ∧
      (cs.takeWhile member).length + (cs.dropWhile member).length = cs.length :=
    ⟨List.takeWhile_append_dropWhile, by rw [← List.length_append, List.takeWhile_append_dropWhile]⟩
  rw [← hlength, Nat.add_sub_cancel]
  exact (List.prefix_iff_eq_take.1 (List.takeWhile_prefix member)).symm

/-- So is a greedy group, which captures the run. -/
theorem begins?_group_append (hq : ∀ c tail, cls.has c = true → q.begins? (c :: tail) = none) :
    (group name (many cls false) ++ q).begins? cs =
      if cs.takeWhile cls.has = [] then none
      else (q.begins? (cs.dropWhile cls.has)).map ((name, cs.takeWhile cls.has) :: ·) := by
  let complete (rest : List Char) : Option Captures :=
    (q.begins? rest).map ((name, cs.take (cs.length - rest.length)) :: ·)
  have hcomplete (c : Char) (tail : List Char) (hc : cls.has c = true) :
      complete (c :: tail) = none := by
    simp only [complete, hq c tail hc, Option.map_none]
  have hrests : (cls.remainders cs).reverse.findSome? complete =
      if cs.takeWhile cls.has = [] then none else complete (cs.dropWhile cls.has) :=
    CharClass.findSome?_remainders hcomplete
  simp only [complete, take_length_sub_dropWhile] at hrests
  rw [begins?_append, ← hrests, candidates, candidates, List.map_map, List.findSome?_map]
  rfl

/-- A greedy group at the end captures the longest run. -/
theorem begins?_group : (group name (many cls false)).begins? cs =
    if cs.takeWhile cls.has = [] then none else some [(name, cs.takeWhile cls.has)] := by
  rw [begins?, candidates, candidates]
  by_cases h : cs.takeWhile cls.has = []
  · rw [if_pos h, CharClass.remainders_eq_nil h]
    rfl
  · obtain ⟨before, hrests, -⟩ := CharClass.exists_remainders_eq h
    simp [h, hrests, take_length_sub_dropWhile]

end Pattern
end Courier
