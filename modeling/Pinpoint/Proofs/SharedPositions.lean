import Pinpoint.Proofs.Results
import Pinpoint.Snippet.Basic

/-!
# Snippets that share their positions

Positions are a place that snippets write to and read from, and nothing keeps two
snippets of different texts from using the same one. Only resolving writes to it, and
it writes both offsets. So a session has two phases: before the first snippet is
resolved every read fails, and from then on none does. Whose offsets are read in the
second phase is not checked.
-/

namespace Pinpoint.Snippet

/-- A call that a snippet makes on shared positions. -/
inductive Call
  | resolve (s : Snippet)
  | validate (s : Snippet)
  | render (s : Snippet) (color : Bool)
  | region (s : Snippet)

inductive Answer
  | resolved
  | validated (result : Except Fault Unit)
  | rendered (result : Except Fault Text)
  | located (result : Except ReadError (Nat × Nat))

/-- What a call answers, and the positions it leaves behind. -/
def Call.step (p : Positions) : Call → Answer × Positions
  | .resolve s => (.resolved, s.resolve)
  | .validate s => (.validated (s.validate p), p)
  | .render s color => (.rendered (s.render p color), p)
  | .region s => (.located (s.region p), p)

/-- The answers of calls made one after another, and the positions after the last. -/
def session (p : Positions) : List Call → List Answer × Positions
  | [] => ([], p)
  | call :: more =>
    let (answer, q) := call.step p
    let (answers, r) := session q more
    (answer :: answers, r)

/-- The answer is that an offset was read before it was resolved. -/
def Answer.premature : Answer → Bool
  | .validated (.error (.read .unresolved)) => true
  | .rendered (.error (.read .unresolved)) => true
  | .located (.error .unresolved) => true
  | _ => false

/-- The call needs the offset of a line. -/
def Call.Reads : Call → Prop
  | .resolve _ => False
  | .validate _ => True
  | .render _ _ => True
  | .region s => s.startIndex = none ∨ s.stopIndex = none

/-- The snippet that the call resolves. -/
def Call.resolved? : Call → Option Snippet
  | .resolve s => some s
  | _ => none

theorem step_positions (p : Positions) (call : Call) :
    (call.step p).2 = (call.resolved?.map resolve).getD p := by
  cases call <;> rfl

/-- Positions without an offset yet. -/
theorem premature_step_fresh (call : Call) : (call.step {}).1.premature ↔ call.Reads := by
  cases call with
  | resolve s => simp [Call.step, Answer.premature, Call.Reads]
  | validate s => simp [Call.step, Call.Reads]; rfl
  | render s color => simp [Call.step, Call.Reads]; rfl
  | region s =>
    simp only [Call.step, Call.Reads, region]
    cases s.startIndex <;> cases s.stopIndex <;>
      simp [LineOffset.offsetOr, Answer.premature, Except.map, bind, Except.bind, pure, Except.pure]

/-- Both offsets have been resolved, to a line or to none. -/
structure Positions.Known (p : Positions) : Prop where
  start : p.start ≠ .unresolved
  stop : p.stop ≠ .unresolved

theorem ofLine_ne_unresolved (text : Text) (line : Option Int) :
    LineOffset.ofLine text line ≠ .unresolved := by
  unfold LineOffset.ofLine
  split <;> exact LineOffset.noConfusion

theorem known_resolve (s : Snippet) : s.resolve.Known :=
  ⟨ofLine_ne_unresolved _ _, ofLine_ne_unresolved _ _⟩

theorem exists_isValid {offset : LineOffset} (h : offset ≠ .unresolved) :
    ∃ valid, offset.isValid = .ok valid := by
  cases offset with
  | unresolved => exact absurd rfl h
  | invalid => exact ⟨false, rfl⟩
  | resolved o => exact ⟨true, rfl⟩

theorem exists_offsetOr {offset : LineOffset} (h : offset ≠ .unresolved) (fallback : Int) :
    ∃ o, offset.offsetOr fallback = .ok o := by
  cases offset with
  | unresolved => exact absurd rfl h
  | invalid => exact ⟨fallback, rfl⟩
  | resolved o => exact ⟨o, rfl⟩

theorem checkNumbers_ne_read (s : Snippet) (numbers : List Int) (error : ReadError) :
    s.checkNumbers numbers ≠ .error (.read error) := by
  unfold checkNumbers
  split <;> simp

theorem refuse_ne_read (s : Snippet) (refused : Error) (error : ReadError) :
    s.refuse refused ≠ .error (.read error) := by
  intro h
  rcases bind_eq_error_iff.mp h with h | ⟨_, -, h⟩
  · exact s.checkNumbers_ne_read _ error h
  · cases h

theorem not_premature_validated {result : Except Fault Unit}
    (h : ∀ error, result ≠ .error (.read error)) : (Answer.validated result).premature = false := by
  cases result with
  | ok valid => rfl
  | error fault =>
    cases fault with
    | read error => exact absurd rfl (h error)
    | refused error => rfl
    | tooLarge part => rfl

theorem not_premature_rendered {result : Except Fault Text}
    (h : ∀ error, result ≠ .error (.read error)) : (Answer.rendered result).premature = false := by
  cases result with
  | ok out => rfl
  | error fault =>
    cases fault with
    | read error => exact absurd rfl (h error)
    | refused error => rfl
    | tooLarge part => rfl

namespace Positions.Known

variable {p : Positions}

theorem validate_ne_read (hp : p.Known) (s : Snippet) (error : ReadError) :
    s.validate p ≠ .error (.read error) := by
  obtain ⟨startValid, hstartValid⟩ := exists_isValid hp.start
  obtain ⟨stopValid, hstopValid⟩ := exists_isValid hp.stop
  obtain ⟨start, hstart⟩ := exists_offsetOr hp.start 0
  obtain ⟨stop, hstop⟩ := exists_offsetOr hp.stop 0
  simp only [validate, hstartValid, hstopValid, hstart, hstop, mapError_ok, bind, Except.bind]
  split
  · exact s.refuse_ne_read _ error
  · simp

theorem exists_region (hp : p.Known) (s : Snippet) : ∃ region, s.region p = .ok region := by
  obtain ⟨start, hstart⟩ := exists_offsetOr hp.start 0
  obtain ⟨stop, hstop⟩ := exists_offsetOr hp.stop 0
  simp only [region, hstart, hstop]
  cases s.startIndex <;> cases s.stopIndex <;> exact ⟨_, rfl⟩

theorem frame_ne_read (hp : p.Known) (s : Snippet) (error : ReadError) :
    s.frame p ≠ .error (.read error) := by
  obtain ⟨start, hstart⟩ := exists_offsetOr hp.start (s.startIndex.getD 0)
  obtain ⟨stop, hstop⟩ := exists_offsetOr hp.stop (s.stopIndex.getD 0)
  obtain ⟨region, hregion⟩ := hp.exists_region s
  simp only [frame, hstart, hstop, hregion, mapError_ok, bind, Except.bind]
  intro h
  cases hchecked : s.checkNumbers [Excerpt.largest [start, stop]] with
  | error fault =>
    rw [hchecked] at h
    cases h
    exact s.checkNumbers_ne_read _ error hchecked
  | ok _ =>
    rw [hchecked] at h
    cases h

theorem render_ne_read (hp : p.Known) (s : Snippet) (color : Bool) (error : ReadError) :
    s.render p color ≠ .error (.read error) := by
  intro h
  rcases bind_eq_error_iff.mp h with h | ⟨frame, -, h⟩
  · exact hp.frame_ne_read s error h
  · rcases bind_eq_error_iff.mp h with h | ⟨_, -, h⟩
    · exact s.checkNumbers_ne_read _ error h
    · cases h

theorem not_premature_step (hp : p.Known) (call : Call) : (call.step p).1.premature = false := by
  cases call with
  | resolve s => rfl
  | validate s => exact not_premature_validated (hp.validate_ne_read s)
  | render s color => exact not_premature_rendered (hp.render_ne_read s color)
  | region s =>
    obtain ⟨region, hregion⟩ := hp.exists_region s
    rw [Call.step, hregion]
    rfl

end Positions.Known

/-- The snippet that was resolved last. -/
def lastResolved? (calls : List Call) : Option Snippet :=
  (calls.filterMap Call.resolved?).getLast?

theorem lastResolved?_eq_none_iff {calls : List Call} :
    lastResolved? calls = none ↔ ∀ call ∈ calls, call.resolved? = none := by
  rw [lastResolved?, List.getLast?_eq_none_iff, List.filterMap_eq_nil_iff]

/-- Of all calls before it, a call sees only the last one that resolved a snippet. -/
theorem session_positions (p : Positions) (calls : List Call) :
    (session p calls).2 = ((lastResolved? calls).map resolve).getD p := by
  induction calls generalizing p with
  | nil => rfl
  | cons call more ih =>
    change (session (call.step p).2 more).2 = _
    rw [ih, step_positions, lastResolved?, lastResolved?]
    cases hcall : call.resolved? with
    | none => rw [List.filterMap_cons_none hcall]; rfl
    | some s =>
      rw [List.filterMap_cons_some hcall, List.getLast?_cons]
      cases (more.filterMap Call.resolved?).getLast? <;> rfl

theorem session_append (p : Positions) (before after : List Call) :
    (session p (before ++ after)).1 =
      (session p before).1 ++ (session (session p before).2 after).1 := by
  induction before generalizing p with
  | nil => rfl
  | cons call more ih =>
    change (call.step p).1 :: (session (call.step p).2 (more ++ after)).1 = _
    rw [ih]
    rfl

theorem length_session (p : Positions) (calls : List Call) :
    (session p calls).1.length = calls.length := by
  induction calls generalizing p with
  | nil => rfl
  | cons call more ih => exact congrArg (· + 1) (ih _)

theorem premature_step_session (calls : List Call) (call : Call) :
    (call.step (session {} calls).2).1.premature ↔
      (∀ earlier ∈ calls, earlier.resolved? = none) ∧ call.Reads := by
  rw [session_positions, ← lastResolved?_eq_none_iff]
  cases lastResolved? calls with
  | none =>
    simp only [Option.map_none, Option.getD_none, true_and]
    exact premature_step_fresh call
  | some s =>
    simp only [Option.map_some, Option.getD_some, reduceCtorEq, false_and, iff_false,
      Bool.not_eq_true]
    exact s.known_resolve.not_premature_step call

/-- The answer to a call depends on the calls before it only. -/
theorem session_getElem? (p : Positions) {calls : List Call} {i : Nat} {call : Call}
    (h : calls[i]? = some call) :
    (session p calls).1[i]? = some (call.step (session p (calls.take i)).2).1 := by
  obtain ⟨hi, hcall⟩ := List.getElem?_eq_some_iff.mp h
  have hsplit : calls.take i ++ call :: calls.drop (i + 1) = calls := by
    rw [← hcall, ← List.drop_eq_getElem_cons hi, List.take_append_drop]
  have hlength : (session p (calls.take i)).1.length = i := by
    rw [length_session, List.length_take, Nat.min_eq_left (Nat.le_of_lt hi)]
  have happend := session_append p (calls.take i) (call :: calls.drop (i + 1))
  rw [hsplit] at happend
  rw [happend, List.getElem?_append_right (Nat.le_of_eq hlength), hlength, Nat.sub_self]
  rfl

/-- Calls that resolve nothing leave the positions as they are. -/
theorem lastResolved?_append (calls : List Call) {more : List Call}
    (h : ∀ call ∈ more, call.resolved? = none) :
    lastResolved? (calls ++ more) = lastResolved? calls := by
  rw [lastResolved?, List.filterMap_append, List.filterMap_eq_nil_iff.mpr h, List.append_nil,
    lastResolved?]

theorem session_positions_resolved (p : Positions) (calls : List Call) (s : Snippet)
    {between : List Call} (h : ∀ call ∈ between, call.resolved? = none) :
    (session p (calls ++ .resolve s :: between)).2 = s.resolve := by
  have hlast : lastResolved? (calls ++ [.resolve s]) = some s := by
    rw [lastResolved?, List.filterMap_append]
    exact List.getLast?_concat
  rw [session_positions, List.append_cons, lastResolved?_append _ h, hlast]
  rfl

/-- What validating and then drawing a snippet comes to. -/
def concluded (validated : Except Fault Unit) (rendered : Except Fault Text) : Except Fault Text :=
  validated.bind fun _ => rendered

/-- In every session on positions that start unresolved, the `i`-th answer is that an
offset was read too early exactly if no snippet was resolved before and the call reads
one: validating and rendering always do, a region does where an index is absent. Only
resolving changes the positions. Whatever they held before, as long as no other snippet
is resolved after it, a snippet that is validated and rendered gives the outcome of
its build. -/
theorem session_protocol :
    (∀ calls i call, calls[i]? = some call →
      let before := (session {} (calls.take i)).2
      ∃ answer, (session {} calls).1[i]? = some answer ∧
        (answer.premature ↔ (∀ earlier ∈ calls.take i, earlier.resolved? = none) ∧ call.Reads) ∧
        (call.resolved? = none → (session {} (calls.take (i + 1))).2 = before)) ∧
    (∀ stale calls s between color, (∀ call ∈ between, call.resolved? = none) →
      let earlier := calls ++ .resolve s :: between
      ∃ validated rendered,
        (session stale (earlier ++ [.validate s, .render s color])).1 =
          (session stale earlier).1 ++ [.validated validated, .rendered rendered] ∧
        concluded validated rendered = s.build color) := by
  constructor
  · intro calls i call hcall before
    refine ⟨_, session_getElem? {} hcall, premature_step_session _ _, fun hnone => ?_⟩
    have hnext : calls.take (i + 1) = calls.take i ++ [call] := by
      rw [List.take_add_one, hcall]
      rfl
    rw [hnext, session_positions, lastResolved?_append _ (by simpa using hnone), ← session_positions]
  · intro stale calls s between color hbetween earlier
    have hpositions : (session stale earlier).2 = s.resolve :=
      session_positions_resolved stale calls s hbetween
    refine ⟨s.validate s.resolve, s.render s.resolve color, ?_, rfl⟩
    rw [session_append, hpositions]
    rfl

/-- A snippet of one line, and one of a longer text that has a second line. -/
theorem session_protocol_two_texts :
    let short : Snippet := { text := ['a'], startIndex := some 0, stopLine := some 1 }
    let long : Snippet := { text := ['a', '\n', 'b', 'c'], startLine := some 2, stopIndex := some 9 }
    let calls : List Call := [.region short, .resolve short, .region long]
    (∃ answer, (session {} calls).1[0]? = some answer ∧ answer.premature) ∧
    (∃ answer, (session {} calls).1[2]? = some answer ∧ ¬ answer.premature ∧
      (session {} calls).2 = (session {} (calls.take 2)).2) ∧
    ∃ validated rendered,
      (session {} (calls ++ [.resolve long] ++ [.validate long, .render long false])).1 =
        (session {} (calls ++ [.resolve long])).1 ++ [.validated validated, .rendered rendered] ∧
      concluded validated rendered = long.build false := by
  intro short long calls
  obtain ⟨hanswers, hbuild⟩ := session_protocol
  obtain ⟨first, hfirst, hpremature, -⟩ := hanswers calls 0 (.region short) rfl
  obtain ⟨third, hthird, hknown, hkept⟩ := hanswers calls 2 (.region long) rfl
  refine ⟨⟨first, hfirst, hpremature.mpr ⟨by simp, Or.inr rfl⟩⟩, ⟨third, hthird, ?_, hkept rfl⟩, ?_⟩
  · intro h
    cases (hknown.mp h).1 (.resolve short) (by simp [calls])
  · exact hbuild {} calls long [] false (by simp)

end Pinpoint.Snippet
