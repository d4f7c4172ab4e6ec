import Pinpoint.Proofs.LineSpans
import Pinpoint.Proofs.Refusal
import Pinpoint.Proofs.SharedPositions

/-!
# Where a region lies

Nothing is asked of the two offsets of a region. An index can be any integer, and the
offset of a line can have been resolved by another snippet against another text. Each is
moved to the nearest position of the text and the two are put in order, so that a region
can always be cut out of its text.

A snippet that is not refused has offsets of its own, its indexes or else its lines. Those
of two lines are in the text and in order, so they are the region as they are.
-/

namespace Pinpoint.Snippet

/-- The position of a text that is nearest to an offset. -/
def nearest (text : Text) (offset : Int) : Int :=
  min (max offset 0) text.length

/-- The positions nearest to two offsets, the smaller one first. -/
def spanBetween (text : Text) (start stop : Int) : Nat × Nat :=
  let clamp (offset : Int) := min offset.toNat text.length
  (min (clamp start) (clamp stop), max (clamp start) (clamp stop))

theorem spanBetween_ordered (text : Text) (start stop : Int) :
    (spanBetween text start stop).1 ≤ (spanBetween text start stop).2 := by
  simp only [spanBetween]
  omega

theorem spanBetween_within (text : Text) (start stop : Int) :
    (spanBetween text start stop).2 ≤ text.length := by
  simp only [spanBetween]
  omega

theorem spanBetween_comm (text : Text) (start stop : Int) :
    spanBetween text start stop = spanBetween text stop start := by
  simp only [spanBetween, Nat.min_comm, Nat.max_comm]

theorem spanBetween_nearest (text : Text) (start stop : Int) :
    ((spanBetween text start stop).1 : Int) = min (nearest text start) (nearest text stop) ∧
      ((spanBetween text start stop).2 : Int) = max (nearest text start) (nearest text stop) := by
  simp only [spanBetween, nearest]
  omega

/-- Offsets that lie in the text and in order stay as they are. -/
theorem spanBetween_eq_self {text : Text} {a b : Nat} (hle : a ≤ b) (hin : b ≤ text.length) :
    spanBetween text a b = (a, b) := by
  have hstart : min a text.length = a := Nat.min_eq_left (hle.trans hin)
  have hstop : min b text.length = b := Nat.min_eq_left hin
  simp only [spanBetween, Int.toNat_natCast, hstart, hstop, Nat.min_eq_left hle, Nat.max_eq_right hle]

/-- The offset of a line is used only where no index is given. -/
theorem region_eq_spanBetween {s : Snippet} {p : Positions} {first last : Int}
    (hfirst : p.start.offsetOr 0 = .ok first) (hlast : p.stop.offsetOr 0 = .ok last) :
    s.region p =
      .ok (spanBetween s.text (s.startIndex.getD first) (s.stopIndex.getD (s.text.lineEnd last))) := by
  simp only [region, hfirst, hlast]
  cases s.startIndex <;> cases s.stopIndex <;> rfl

/-- The region is said to start at this offset: at the index, or else where the line starts. -/
structure StartsAt (s : Snippet) (start : Int) : Prop where
  index : ∀ index ∈ s.startIndex, start = index
  line : s.startIndex = none →
    ∃ line ∈ s.startLine, ∃ o : Nat, s.text.lineStart? line = some o ∧ start = o

/-- The region is said to stop at this offset: at the index, or else where the line ends. -/
structure StopsAt (s : Snippet) (stop : Int) : Prop where
  index : ∀ index ∈ s.stopIndex, stop = index
  line : s.stopIndex = none →
    ∃ line ∈ s.stopLine, ∃ o : Nat, s.text.lineStart? line = some o ∧ stop = s.text.lineEnd o

theorem validate_resolve_eq_ok_iff {s : Snippet} :
    s.validate s.resolve = .ok () ↔ s.refusal? = none := by
  rw [validate_resolve]
  cases s.refusal? with
  | none => simp
  | some error => simp [refuse, bind_eq_ok_iff]

/-- An end of a region that is given, but by no index, is given by a line of the text. -/
theorem exists_beginsLine_of_given {text : Text} {index line : Option Int}
    (hgiven : index ≠ none ∨ line ≠ none) (hline : ∀ n ∈ line, text.HasLine n)
    (hindex : index = none) :
    ∃ n o : Nat, line = some ((n + 1 : Nat) : Int) ∧ text.BeginsLine n o := by
  obtain ⟨number, hnumber⟩ := Option.ne_none_iff_exists'.mp (hgiven.resolve_left (absurd hindex))
  obtain ⟨n, o, rfl, hbegins⟩ := (hline number hnumber).exists_beginsLine
  exact ⟨n, o, hnumber, hbegins⟩

theorem startsAt_startOffset {s : Snippet} (h : s.refusal? = none) : s.StartsAt s.startOffset := by
  obtain ⟨hstart, hfirst, -⟩ := refusal?_eq_none_iff.mp h
  constructor
  · intro index hindex
    rw [startOffset, Option.mem_def.mp hindex, Option.getD_some]
  · intro hindex
    obtain ⟨n, o, hline, hbegins⟩ := exists_beginsLine_of_given hstart hfirst hindex
    refine ⟨_, hline, o, hbegins.lineStart?_eq, ?_⟩
    rw [startOffset, hindex, hline, offsetOfLine_eq s.text (Nat.le_add_left 1 n) hbegins]
    rfl

theorem stopsAt_stopOffset {s : Snippet} (h : s.refusal? = none) : s.StopsAt s.stopOffset := by
  obtain ⟨-, -, hstop, hlast, -⟩ := refusal?_eq_none_iff.mp h
  constructor
  · intro index hindex
    rw [stopOffset, Option.mem_def.mp hindex, Option.getD_some]
  · intro hindex
    obtain ⟨n, o, hline, hbegins⟩ := exists_beginsLine_of_given hstop hlast hindex
    refine ⟨_, hline, o, hbegins.lineStart?_eq, ?_⟩
    rw [stopOffset, hindex, hline, offsetOfLine_eq s.text (Nat.le_add_left 1 n) hbegins]
    rfl

theorem region_resolve_eq_spanBetween (s : Snippet) :
    s.region s.resolve = .ok (spanBetween s.text s.startOffset s.stopOffset) :=
  region_eq_spanBetween (offsetOr_ofLine _ _ _) (offsetOr_ofLine _ _ _)

/-- The snippet with its indexes in each other's place. -/
def exchanged (s : Snippet) : Snippet :=
  { s with startIndex := s.stopIndex, stopIndex := s.startIndex }

/-- Where both indexes are given, neither a refusal nor the region depends on their order. -/
theorem exchanged_of_indexes {s : Snippet} (hstart : s.startIndex ≠ none)
    (hstop : s.stopIndex ≠ none) :
    s.exchanged.refusal? = s.refusal? ∧ ∀ p, s.exchanged.region p = s.region p := by
  obtain ⟨i, hi⟩ := Option.ne_none_iff_exists'.mp hstart
  obtain ⟨j, hj⟩ := Option.ne_none_iff_exists'.mp hstop
  constructor
  · simp only [refusal?, exchanged, hi, hj, reduceCtorEq, false_and]
  · intro p
    have hregion : s.region p = .ok (spanBetween s.text i j) := by
      rw [region, hi, hj]
      rfl
    have hexchanged : s.exchanged.region p = .ok (spanBetween s.text j i) := by
      rw [region, exchanged, hi, hj]
      rfl
    rw [hexchanged, hregion, spanBetween_comm]

/-- Lines in order have starts in order, and a line ends behind its start and in the text. -/
theorem spanBetween_lines {text : Text} {m n a b : Nat} (hle : m ≤ n) (ha : text.BeginsLine m a)
    (hb : text.BeginsLine n b) : spanBetween text a (text.lineEnd b) = (a, text.lineEnd b) := by
  have hspans := hb.spansLine
  exact spanBetween_eq_self ((ha.le_of_le hb hle).trans hspans.ordered) hspans.within

theorem region_of_lines {s : Snippet} (h : s.refusal? = none) (hstart : s.startIndex = none)
    (hstop : s.stopIndex = none) :
    ∃ first ∈ s.startLine, ∃ last ∈ s.stopLine, ∃ a b : Nat,
      s.text.lineStart? first = some a ∧ s.text.lineStart? last = some b ∧
      s.region s.resolve = .ok (a, s.text.lineEnd b) := by
  obtain ⟨hstartGiven, hfirst, hstopGiven, hlast, hordered⟩ := refusal?_eq_none_iff.mp h
  obtain ⟨m, a, hm, ha⟩ := exists_beginsLine_of_given hstartGiven hfirst hstart
  obtain ⟨n, b, hn, hb⟩ := exists_beginsLine_of_given hstopGiven hlast hstop
  have hle := hordered _ hm _ hn
  refine ⟨_, hm, _, hn, a, b, ha.lineStart?_eq, hb.lineStart?_eq, ?_⟩
  rw [region_resolve_eq_spanBetween, startOffset, stopOffset, hstart, hstop, hm, hn,
    offsetOfLine_eq s.text (Nat.le_add_left 1 m) ha, offsetOfLine_eq s.text (Nat.le_add_left 1 n) hb]
  exact congrArg Except.ok (spanBetween_lines (by omega) ha hb)

/-- On positions that have been resolved, by whatever snippet, every region lies in its
text and in order. For a snippet that its own positions do not refuse, its ends are the
positions nearest to the snippet's offsets, so two indexes may change places. Between two
lines the region is the start of the one and the end of the other as they are. -/
theorem region_within :
    (∀ (s : Snippet) (p : Positions), p.Known →
      ∃ a b, s.region p = .ok (a, b) ∧ a ≤ b ∧ b ≤ s.text.length) ∧
    ∀ s : Snippet, s.validate s.resolve = .ok () →
      (∃ start stop, s.StartsAt start ∧ s.StopsAt stop ∧
        ∃ a b : Nat, s.region s.resolve = .ok (a, b) ∧
          (a : Int) = min (nearest s.text start) (nearest s.text stop) ∧
          (b : Int) = max (nearest s.text start) (nearest s.text stop)) ∧
      (s.startIndex ≠ none → s.stopIndex ≠ none →
        s.exchanged.validate s.exchanged.resolve = .ok () ∧
        s.exchanged.region s.exchanged.resolve = s.region s.resolve) ∧
      (s.startIndex = none → s.stopIndex = none →
        ∃ first ∈ s.startLine, ∃ last ∈ s.stopLine, ∃ a b : Nat,
          s.text.lineStart? first = some a ∧ s.text.lineStart? last = some b ∧
          s.region s.resolve = .ok (a, s.text.lineEnd b)) := by
  constructor
  · intro s p hp
    obtain ⟨first, hfirst⟩ := exists_offsetOr hp.start 0
    obtain ⟨last, hlast⟩ := exists_offsetOr hp.stop 0
    exact ⟨_, _, region_eq_spanBetween hfirst hlast, spanBetween_ordered _ _ _,
      spanBetween_within _ _ _⟩
  · intro s hvalid
    have hrefusal := validate_resolve_eq_ok_iff.mp hvalid
    refine ⟨?_, ?_, fun hstart hstop => region_of_lines hrefusal hstart hstop⟩
    · have hnearest := spanBetween_nearest s.text s.startOffset s.stopOffset
      exact ⟨_, _, startsAt_startOffset hrefusal, stopsAt_stopOffset hrefusal, _, _,
        s.region_resolve_eq_spanBetween, hnearest⟩
    · intro hstart hstop
      obtain ⟨hsame, hregion⟩ := exchanged_of_indexes hstart hstop
      exact ⟨validate_resolve_eq_ok_iff.mpr (hsame.trans hrefusal), hregion s.resolve⟩

/-- Positions of a longer text, indexes on both sides of the text and in the wrong order,
and two lines of which the last is not finished. -/
theorem region_within_short_text :
    let s : Snippet := { text := ['a', '\n', 'b', 'c'], startIndex := some 9, stopIndex := some (-2) }
    let lines : Snippet := { text := s.text, startLine := some 1, stopLine := some 2 }
    let p : Positions := { start := .resolved 70, stop := .resolved 90 }
    p.Known ∧ s.validate s.resolve = .ok () ∧ s.startIndex ≠ none ∧ s.stopIndex ≠ none ∧
    lines.validate lines.resolve = .ok () ∧ lines.startIndex = none ∧ lines.stopIndex = none ∧
    (∃ a b, lines.region p = .ok (a, b) ∧ a ≤ b ∧ b ≤ 4) ∧
    s.exchanged.region s.exchanged.resolve = s.region s.resolve ∧
    (∃ a b : Nat, s.region s.resolve = .ok (a, b) ∧ a = 0 ∧ b = 4) ∧
    lines.region lines.resolve = .ok (0, 4) := by
  intro s lines p
  have hp : p.Known := ⟨by decide, by decide⟩
  have hvalid : s.validate s.resolve = .ok () := by rfl
  have hlines : lines.validate lines.resolve = .ok () := by rfl
  obtain ⟨hwithin, hown⟩ := region_within
  obtain ⟨⟨start, stop, hstart, hstop, a, b, hregion, ha, hb⟩, hexchanged, -⟩ := hown s hvalid
  obtain ⟨first, hfirst, last, hlast, c, d, hc, hd, hbetween⟩ := (hown lines hlines).2.2 rfl rfl
  obtain rfl : start = 9 := hstart.index 9 rfl
  obtain rfl : stop = -2 := hstop.index (-2) rfl
  obtain rfl : 1 = first := Option.some.inj hfirst
  obtain rfl : 2 = last := Option.some.inj hlast
  obtain rfl : 0 = c := Option.some.inj hc
  obtain rfl : 2 = d := Option.some.inj hd
  exact ⟨hp, hvalid, Option.some_ne_none _, Option.some_ne_none _, hlines, rfl, rfl,
    hwithin lines p hp, (hexchanged (Option.some_ne_none _) (Option.some_ne_none _)).2,
    ⟨a, b, hregion, Int.ofNat_inj.mp ha, Int.ofNat_inj.mp hb⟩, hbetween⟩

end Pinpoint.Snippet
