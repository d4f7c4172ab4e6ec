import Pinpoint.Proofs.Painting

/-!
# Tokens keep the characters of a line

The tokens of a prepared line hold its characters in order, in every language,
and the paint of a token adds control sequences only. What a highlighted line
shows is therefore the prepared line. Preparing drops a byte order mark and writes
carriage returns as newlines.
-/

namespace Pinpoint

open Text.Ansi (strip escape)

namespace Highlight

theorem flatten_pieces (t : Text) : (pieces t).flatten = t := by
  induction t with
  | nil => rfl
  | cons c rest ih =>
    rw [pieces]
    split
    · simp [ih]
    · split
      · next piece more heq =>
        rw [heq] at ih
        simpa using ih
      · next heq =>
        rw [heq] at ih
        simp [← ih]

/-- A newline is the last character of its piece. -/
theorem newline_notMem_dropLast {t piece : Text} (h : piece ∈ pieces t) :
    '\n' ∉ piece.dropLast := by
  induction t generalizing piece with
  | nil => simp [pieces] at h
  | cons c rest ih =>
    rw [pieces] at h
    split at h
    · rcases List.mem_cons.mp h with rfl | h
      · simp
      · exact ih h
    · next hbreak =>
      have hc : '\n' ≠ c := by
        rintro rfl
        exact hbreak rfl
      split at h
      · next first more heq =>
        rcases List.mem_cons.mp h with rfl | h
        · have hfirst : '\n' ∉ first.dropLast := ih (heq ▸ List.mem_cons_self)
          cases first with
          | nil => simp
          | cons d first => simp [hc, hfirst]
        · exact ih (heq ▸ List.mem_cons_of_mem _ h)
      · rw [List.mem_singleton.mp h]
        simp

/-- A piece is what is painted of it and its newline. -/
theorem trimEnd_piece {piece : Text} (h : '\n' ∉ piece.dropLast) :
    Text.trimEnd '\n' piece ++ (if piece.getLast? = some '\n' then ['\n'] else []) = piece := by
  split
  · next hlast =>
    obtain ⟨front, rfl⟩ := List.getLast?_eq_some_iff.mp hlast
    rw [List.dropLast_concat] at h
    rw [Text.trimEnd_concat_self, Text.trimEnd_of_getLast?]
    exact fun hfront => h (List.mem_of_getLast? hfront)
  · next hlast => rw [Text.trimEnd_of_getLast? hlast, List.append_nil]

theorem strip_color_append {cls : TokenClass} {color : Text} (h : cls.color? = some color)
    (t : Text) : strip (color ++ t) = strip t := by
  cases cls <;> cases h <;> rfl

theorem strip_colorEnd_append (t : Text) : strip (colorEnd ++ t) = strip t := rfl

theorem strip_paint_append (cls : TokenClass) {t : Text} (ht : escape ∉ t) (more : Text) :
    strip (cls.paint t ++ more) = t ++ strip more := by
  unfold TokenClass.paint
  split
  · next color hcolor =>
    rw [List.append_assoc, List.append_assoc, strip_color_append hcolor,
      Text.Ansi.strip_notMem_append ht, strip_colorEnd_append]
  · exact Text.Ansi.strip_notMem_append ht more

theorem strip_paintPiece_append (cls : TokenClass) {piece : Text} (hesc : escape ∉ piece)
    (hlast : '\n' ∉ piece.dropLast) (more : Text) :
    strip (cls.paintPiece piece ++ more) = piece ++ strip more := by
  have hbody : escape ∉ Text.trimEnd '\n' piece := fun h => hesc (Text.mem_of_mem_trimEnd h)
  have hbreak : escape ∉ if piece.getLast? = some '\n' then ['\n'] else [] := by
    split <;> decide
  rw [TokenClass.paintPiece, List.append_assoc, strip_paint_append cls hbody,
    Text.Ansi.strip_notMem_append hbreak, ← List.append_assoc, trimEnd_piece hlast]

theorem strip_token_append {token : Token} (hesc : escape ∉ token.text) (more : Text) :
    strip (token.paint ++ more) = token.text ++ strip more := by
  have hpieces (ps : List Text) (hps : ∀ p ∈ ps, escape ∉ p ∧ '\n' ∉ p.dropLast) :
      strip (ps.flatMap token.cls.paintPiece ++ more) = ps.flatten ++ strip more := by
    induction ps with
    | nil => rfl
    | cons p ps ih =>
      obtain ⟨hp, hlast⟩ := hps p List.mem_cons_self
      rw [List.flatMap_cons, List.append_assoc, strip_paintPiece_append _ hp hlast,
        ih fun q hq => hps q (List.mem_cons_of_mem _ hq), List.flatten_cons, List.append_assoc]
  have hflat := hpieces (pieces token.text) fun p hp =>
    ⟨fun h => hesc (flatten_pieces token.text ▸ List.mem_flatten_of_mem hp h),
      newline_notMem_dropLast hp⟩
  rwa [flatten_pieces] at hflat

theorem strip_tokens {tokens : List Token} (hesc : escape ∉ tokens.flatMap Token.text) :
    strip (tokens.flatMap Token.paint) = tokens.flatMap Token.text := by
  induction tokens with
  | nil => rfl
  | cons token more ih =>
    rw [List.flatMap_cons, List.mem_append, not_or] at hesc
    rw [List.flatMap_cons, strip_token_append hesc.1, ih hesc.2, List.flatMap_cons]

namespace Patch

theorem flatMap_lineTokens (line : Text) :
    (lineTokens line).flatMap Token.text = line ++ ['\n'] := by
  have hfilter (body : List Token) :
      (body.filter fun token => !token.text.isEmpty).flatMap Token.text =
        body.flatMap Token.text := by
    induction body with
    | nil => rfl
    | cons token more ih => by_cases h : token.text = [] <;> simp [h, ih]
  unfold lineTokens
  rw [List.flatMap_append, hfilter]
  congr 1
  split <;> simp

/-- The lines with their newlines and the unfinished one are the whole text. -/
theorem flatMap_tokens (t : Text) : (tokens t).flatMap Token.text = t := by
  have hchars (l : Text) : (l.map fun c => (⟨.invalid, [c]⟩ : Token)).flatMap Token.text = l := by
    induction l with
    | nil => rfl
    | cons c l ih => simpa using ih
  unfold tokens
  rw [List.flatMap_append, hchars, List.flatMap_assoc]
  simp only [flatMap_lineTokens]
  induction t using Text.line_induction with
  | unfinished l hl => simp [Text.lines_unfinished hl]
  | finished l rest hl ih =>
    obtain ⟨first, more, hrest⟩ := List.exists_cons_of_ne_nil (Text.fields_ne_nil '\n' rest)
    rw [← Text.lines] at hrest
    rw [Text.lines_finished hl, hrest, List.dropLast_cons_cons, List.getLast?_cons_cons, ← hrest,
      List.flatMap_cons, List.append_assoc, ih]
    simp

end Patch

theorem flatMap_languageTokens (language : Language) (t : Text) :
    (language.tokens t).flatMap Token.text = t := by
  cases language with
  | plain => simp [Language.tokens]
  | patch => exact Patch.flatMap_tokens t

/-- A source line as its language receives it. -/
def prepared (source : Text) : Text :=
  Text.Newline.universal (dropMark source)

/-- The byte order mark. -/
def mark : Char := '\uFEFF'

theorem dropMark_of_head? {t : Text} (h : t.head? ≠ some mark) : dropMark t = t := by
  unfold dropMark
  split
  · exact absurd rfl h
  · rfl

theorem dropMark_suffix (t : Text) : dropMark t <:+ t := by
  unfold dropMark
  split
  · exact List.suffix_cons _ _
  · exact List.suffix_refl _

/-- Within one line only carriage returns are rewritten, each on its own. -/
theorem prepared_eq_map {source : Text} (h : '\n' ∉ source) :
    prepared source = (dropMark source).map fun c => if c = '\r' then '\n' else c := by
  have hline : '\n' ∉ dropMark source := fun hmem => h ((dropMark_suffix source).mem hmem)
  rw [prepared]
  generalize dropMark source = t at hline
  fun_induction Text.Newline.universal t with
  | case1 => rfl
  | case2 rest ih => simp at hline
  | case3 c rest _ ih =>
    simp only [List.mem_cons, not_or] at hline
    rw [ih hline.2, List.map_cons]

theorem prepared_eq_self_iff {source : Text} (h : '\n' ∉ source) :
    prepared source = source ↔ source.head? ≠ some mark ∧ '\r' ∉ source := by
  constructor
  · intro heq
    rw [prepared_eq_map h] at heq
    have hhead : source.head? ≠ some mark := by
      intro hmark
      obtain ⟨rest, rfl⟩ := List.head?_eq_some_iff.mp hmark
      have hlength := congrArg List.length heq
      rw [List.length_map, show dropMark (mark :: rest) = rest from rfl,
        List.length_cons] at hlength
      omega
    refine ⟨hhead, fun hreturn => ?_⟩
    rw [dropMark_of_head? hhead] at heq
    rw [← heq, List.mem_map] at hreturn
    obtain ⟨c, -, hc⟩ := hreturn
    split at hc
    · exact absurd hc (by decide)
    · next hne => exact hne hc
  · rintro ⟨hhead, hreturn⟩
    rw [prepared, dropMark_of_head? hhead, Text.Newline.universal_eq_self hreturn]

theorem mem_dropMark_iff {source : Text} {c : Char} (hc : c ≠ mark) :
    c ∈ dropMark source ↔ c ∈ source := by
  by_cases hhead : source.head? = some mark
  · obtain ⟨rest, rfl⟩ := List.head?_eq_some_iff.mp hhead
    simp [show dropMark (mark :: rest) = rest from rfl, hc]
  · rw [dropMark_of_head? hhead]

/-- A prepared line breaks where the line has a carriage return. -/
theorem newline_mem_prepared_iff {source : Text} (h : '\n' ∉ source) :
    '\n' ∈ prepared source ↔ '\r' ∈ source := by
  have hreturn : '\r' ∈ dropMark source ↔ '\r' ∈ source := mem_dropMark_iff (by decide)
  rw [prepared_eq_map h, ← hreturn, List.mem_map]
  constructor
  · rintro ⟨c, hmem, hc⟩
    split at hc
    · next hc' => exact hc' ▸ hmem
    · exact absurd ((dropMark_suffix source).mem (hc ▸ hmem)) h
  · exact fun hmem => ⟨'\r', hmem, rfl⟩

theorem escape_notMem_prepared {source : Text} (hline : '\n' ∉ source) (h : escape ∉ source) :
    escape ∉ prepared source := by
  rw [prepared_eq_map hline, List.mem_map]
  rintro ⟨c, hmem, hc⟩
  split at hc
  · exact absurd hc (by decide)
  · exact h ((dropMark_suffix source).mem (hc ▸ hmem))

theorem getLast?_prepared {source : Text} (hline : '\n' ∉ source)
    (h : source.getLast? ≠ some '\r') : (prepared source).getLast? ≠ some '\n' := by
  rw [prepared_eq_map hline, List.getLast?_map]
  intro heq
  obtain ⟨c, hlast, hc⟩ := Option.map_eq_some_iff.mp heq
  obtain ⟨front, hfront⟩ := List.getLast?_eq_some_iff.mp hlast
  obtain ⟨pre, hpre⟩ := dropMark_suffix source
  rw [hfront, ← List.append_assoc] at hpre
  split at hc
  · next hreturn => exact h (by rw [← hpre, List.getLast?_concat, hreturn])
  · exact hline (by rw [← hpre, hc]; simp)

/-- Without its control sequences a highlighted line is the prepared line. -/
theorem strip_languagePaint (language : Language) {source : Text} (hesc : escape ∉ source)
    (hline : '\n' ∉ source) (hlast : source.getLast? ≠ some '\r') :
    strip (language.paint source) = prepared source := by
  have hstrip :
      strip ((language.tokens (prepared source)).flatMap Token.paint) = prepared source := by
    rw [strip_tokens] <;> rw [flatMap_languageTokens]
    exact escape_notMem_prepared hline hesc
  rw [Language.paint, ← prepared, Text.trimEnd_of_getLast?, hstrip]
  -- A newline at the end of the painted line would outlive the removal.
  intro heq
  obtain ⟨front, hfront⟩ := List.getLast?_eq_some_iff.mp heq
  rw [hfront, Text.Ansi.strip_newline] at hstrip
  exact getLast?_prepared hline hlast (by rw [← hstrip]; exact List.getLast?_concat)

theorem languagePaint_eq_nil_iff (language : Language) {source : Text} (hesc : escape ∉ source)
    (hline : '\n' ∉ source) (hlast : source.getLast? ≠ some '\r') :
    language.paint source = [] ↔ prepared source = [] := by
  constructor
  · intro h
    rw [← strip_languagePaint language hesc hline hlast, h]
    rfl
  · intro h
    rw [Language.paint, ← prepared, h]
    cases language <;> rfl

end Highlight

end Pinpoint
