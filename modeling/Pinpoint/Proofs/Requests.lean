import Mathlib.Data.Nat.Digits.Lemmas
import Mathlib.Logic.Function.Basic
import Pinpoint.Command.Request
import Pinpoint.Proofs.Results

/-!
# What a command line asks for

Options may stand in any order and more than once, and each is checked before the
file is looked at. A call that passes these checks asks for exactly what its
options say: every field of the request is read off the last value of its own
option, and off nothing else.

A number that a command line gives can also be written, because more digits than that
are not read.
-/

namespace Pinpoint

namespace Text.Integer

theorem lt_ten_of_digits? {t : Text} {digits : List Nat} (h : digits? t = some digits) :
    ∀ d ∈ digits, d < 10 := by
  induction t using digits?.induct generalizing digits with
  | case1 => cases h
  | case2 c =>
    obtain ⟨d, hd, rfl⟩ := Option.map_eq_some_iff.mp h
    exact List.forall_mem_singleton.mpr (Digit.value?_lt hd)
  | case3 c rest ih =>
    obtain ⟨d, hd, h⟩ := Option.bind_eq_some_iff.mp h
    obtain ⟨more, hmore, h⟩ := Option.bind_eq_some_iff.mp h
    obtain rfl := Option.some.inj h
    exact List.forall_mem_cons.mpr ⟨Digit.value?_lt hd, ih hmore⟩
  | case4 c rest hne hother ih =>
    rw [digits?] at h
    · obtain ⟨d, hd, h⟩ := Option.bind_eq_some_iff.mp h
      obtain ⟨more, hmore, h⟩ := Option.bind_eq_some_iff.mp h
      obtain rfl := Option.some.inj h
      exact List.forall_mem_cons.mpr ⟨Digit.value?_lt hd, ih hmore⟩
    · exact hne
    · exact hother

theorem value_lt {digits : List Nat} (h : ∀ d ∈ digits, d < 10) {k : Nat} (hlength : digits.length ≤ k) :
    value digits < Nat.pow 10 k := by
  have hvalue : value digits = Nat.ofDigits 10 digits.reverse := by
    rw [Nat.ofDigits_eq_foldr, List.foldr_reverse]
    simp [value, Nat.add_comm]
  have hlt : value digits < 10 ^ digits.length := by
    rw [hvalue, ← List.length_reverse]
    exact Nat.ofDigits_lt_base_pow_length (by decide) fun d hd => h d (List.mem_reverse.mp hd)
  exact Nat.lt_of_lt_of_le hlt (Nat.pow_le_pow_right (by decide) hlength)

theorem isShort_of_magnitude? {t : Text} {n : Nat} (h : magnitude? t = some n) :
    Numeral.isShort n = true := by
  unfold magnitude? at h
  split at h
  · next digits hdigits =>
    split at h
    · next hlength =>
      obtain rfl := Option.some.inj h
      rw [Numeral.isShort, decide_eq_true_iff]
      exact value_lt (lt_ten_of_digits? hdigits) hlength
    · cases h
  · cases h

/-- What can be read can be written. -/
theorem isShort_of_ofText? {t : Text} {n : Int} (h : ofText? t = some n) : Numeral.isShort n = true := by
  unfold ofText? at h
  split at h
  · obtain ⟨m, hm, rfl⟩ := Option.map_eq_some_iff.mp h
    have hshort := isShort_of_magnitude? hm
    rwa [Numeral.isShort, ← Int.natAbs_neg] at hshort
  all_goals
    obtain ⟨m, hm, rfl⟩ := Option.map_eq_some_iff.mp h
    exact isShort_of_magnitude? hm

end Text.Integer

namespace Command

theorem Parsed.mem_occurring_iff {α : Type} [BEq α] [LawfulBEq α] {p : Parsed α} {option : α} :
    option ∈ p.occurring ↔ (p.value? option).isSome := by
  rw [occurring, List.mem_eraseDups, List.mem_map, value?, List.lookup_isSome_iff]
  simp only [List.mem_reverse, beq_iff_eq, eq_comm (a := option)]

/-- A value that an option can take. -/
def RenderOption.accepts (option : RenderOption) (value : Text) : Bool :=
  match option with
  | .lineStart | .lineEnd | .indexStart | .indexEnd => (Text.Integer.ofText? value).isSome
  | .kind => (Excerpt.Emphasis.ofName? value).isSome
  | .severity => (severities.lookup value).isSome
  | .color => (ColorMode.ofName? value).isSome
  | .caption | .title | .code | .summary | .description | .docUrl | .help => true

/-- The numbers that a request gives. -/
def RenderRequest.numbers (r : RenderRequest) : List Int :=
  r.lineStart.toList ++ r.lineEnd.toList ++ (r.indexStart.toList ++ r.indexEnd.toList)

/-- All numbers of the request are short enough to be written. -/
def RenderRequest.IsShort (r : RenderRequest) : Prop :=
  ∀ n ∈ r.numbers, Text.Numeral.isShort n = true

/-- The request of the given options. An option that is not given has its default. -/
def RenderRequest.ofGiven (file : Text) (given : RenderOption → Option Text) : RenderRequest where
  file := file
  lineStart := (given .lineStart).bind Text.Integer.ofText?
  lineEnd := (given .lineEnd).bind Text.Integer.ofText?
  indexStart := (given .indexStart).bind Text.Integer.ofText?
  indexEnd := (given .indexEnd).bind Text.Integer.ofText?
  kind := ((given .kind).bind Excerpt.Emphasis.ofName?).getD .error
  severity := ((given .severity).bind fun name => severities.lookup name).getD .error
  caption := given .caption
  title := given .title
  code := given .code
  summary := given .summary
  description := given .description
  link := given .docUrl
  color := (given .color).bind ColorMode.ofName?

theorem integer_eq_ok_iff {parameter value : Text} {n : Int} :
    integer parameter value = .ok n ↔ Text.Integer.ofText? value = some n := by
  unfold integer
  cases Text.Integer.ofText? value <;> simp

theorem choice_eq_ok_iff {α : Type} {parameter value : Text} {choices : List (Text × α)} {a : α} :
    choice parameter value choices = .ok a ↔ choices.lookup value = some a := by
  unfold choice
  cases choices.lookup value <;> simp

theorem lookup_map_name {α : Type} (name : α → Text) (all : List α) (value : Text) :
    (all.map fun a => (name a, a)).lookup value = all.find? (name · = value) := by
  induction all with
  | nil => rfl
  | cons a rest ih =>
    rw [List.map_cons, List.lookup_cons, List.find?_cons, ih]
    by_cases h : name a = value
    · simp [h]
    · have hne : (value == name a) = false := beq_false_of_ne (Ne.symm h)
      simp [h, hne]

/-- Setting an option replaces its value among the given ones and no other. -/
theorem RenderRequest.set_ofGiven {file value : Text} {given : RenderOption → Option Text}
    {option : RenderOption} {r : RenderRequest} :
    (ofGiven file given).set option value = .ok r ↔
      option.accepts value ∧ r = ofGiven file (Function.update given option (some value)) := by
  cases option
  case lineStart | lineEnd | indexStart | indexEnd =>
    simp only [set, RenderOption.accepts, map_eq_ok_iff, integer_eq_ok_iff]
    cases hvalue : Text.Integer.ofText? value <;>
      simp [ofGiven, hvalue, eq_comm]
  case kind =>
    simp only [set, RenderOption.accepts, map_eq_ok_iff, choice_eq_ok_iff, lookup_map_name]
    rw [← Excerpt.Emphasis.ofName?]
    cases hvalue : Excerpt.Emphasis.ofName? value <;>
      simp [ofGiven, hvalue, eq_comm]
  case color =>
    simp only [set, RenderOption.accepts, map_eq_ok_iff, choice_eq_ok_iff, lookup_map_name]
    rw [← ColorMode.ofName?]
    cases hvalue : ColorMode.ofName? value <;>
      simp [ofGiven, hvalue, eq_comm]
  case severity =>
    simp only [set, RenderOption.accepts, map_eq_ok_iff, choice_eq_ok_iff]
    cases hvalue : severities.lookup value <;>
      simp [ofGiven, hvalue, eq_comm]
  all_goals simp [set, RenderOption.accepts, ofGiven, eq_comm]

/-- Options that are set one after another replace their values, the later of two
settings of one option being the one that counts. -/
theorem RenderRequest.foldlM_set (file : Text) (value : RenderOption → Text)
    (options : List RenderOption) (given : RenderOption → Option Text) {r : RenderRequest} :
    options.foldlM (fun (r : RenderRequest) option => r.set option (value option)) (ofGiven file given) =
        .ok r ↔
      (∀ option ∈ options, option.accepts (value option)) ∧
        r = ofGiven file fun option => if option ∈ options then some (value option) else given option := by
  induction options generalizing given with
  | nil =>
    simp only [List.not_mem_nil, false_implies, implies_true, true_and, if_false]
    exact ⟨fun h => (Except.ok.inj h).symm, fun h => congrArg Except.ok h.symm⟩
  | cons option rest ih =>
    rw [List.foldlM_cons, bind_eq_ok_iff]
    simp only [set_ofGiven, List.forall_mem_cons, and_assoc, exists_and_left, exists_eq_left, ih]
    -- An option that occurs again behind has its value from there, and it is the same one.
    have hgiven : (fun o => if o ∈ rest then some (value o) else
        Function.update given option (some (value option)) o) =
        fun o => if o ∈ option :: rest then some (value o) else given o := by
      funext o
      by_cases ho : o = option
      · simp [ho]
      · simp [ho]
    rw [hgiven]

/-- Setting the options that occur, each to its last value, reads all of them. -/
theorem RenderRequest.foldlM_occurring {given : Parsed RenderOption} {r : RenderRequest} :
    given.occurring.foldlM (fun (r : RenderRequest) option =>
        r.set option ((given.value? option).getD [])) {} = .ok r ↔
      (∀ option value, given.value? option = some value → option.accepts value) ∧
        r = ofGiven [] given.value? := by
  have hvalues : (fun option => if option ∈ given.occurring then some ((given.value? option).getD [])
      else none) = given.value? := by
    funext option
    simp only [Parsed.mem_occurring_iff]
    cases given.value? option <;> simp
  have hfold {r : RenderRequest} := foldlM_set [] (fun option => (given.value? option).getD [])
    given.occurring (fun _ => none) (r := r)
  rw [hvalues] at hfold
  refine hfold.trans (and_congr_left fun _ => ?_)
  constructor
  · intro h option value hvalue
    have hoption := h option (Parsed.mem_occurring_iff.mpr (by rw [hvalue]; rfl))
    rwa [hvalue] at hoption
  · intro h option hoption
    obtain ⟨value, hvalue⟩ := Option.isSome_iff_exists.mp (Parsed.mem_occurring_iff.mp hoption)
    rw [hvalue]
    exact h option value hvalue

theorem ne_doubleDash {word : Text} (h : isOption word = false) : word ≠ doubleDash := by
  rintro rfl
  cases h

theorem parse_doubleDash {α : Type} (g : Grammar α) (rest : List Text) :
    g.parse (doubleDash :: rest) = .ok { positional := rest } := by
  rw [Grammar.parse, if_pos rfl]

theorem parse_word {α : Type} {g : Grammar α} (hg : g.interspersed = true) {word : Text}
    (h : isOption word = false) (rest : List Text) :
    g.parse (word :: rest) = (g.parse rest).map (·.withPositional word) := by
  rw [Grammar.parse, if_neg (ne_doubleDash h), h, hg]
  rfl

/-- The options of the main command stand in front of the first word that is none. -/
theorem parse_main_word {word : Text} (h : isOption word = false) (rest : List Text) :
    mainGrammar.parse (word :: rest) = .ok { positional := word :: rest } := by
  rw [Grammar.parse, if_neg (ne_doubleDash h), h]
  rfl

/-- The words behind `render` hold options that can be read and one existing file. -/
structure Accepted (t : FileTree) (directory : Path) (words : List Text)
    (given : Parsed RenderOption) (file : Text) : Prop where
  fits : renderGrammar.parse words = .ok given
  noHelp : .help ∉ given.occurring
  readable : ∀ option value, given.value? option = some value → option.accepts value
  oneFile : given.positional = [file]
  fileExists : ∃ bytes, t.stat directory file = .ok (.file bytes)

theorem fileArgument_eq_ok_iff {t : FileTree} {directory : Path} {positional rest : List Text}
    {file : Text} :
    fileArgument t directory positional = .ok (file, rest) ↔
      positional = file :: rest ∧ ∃ bytes, t.stat directory file = .ok (.file bytes) := by
  cases positional with
  | nil => simp [fileArgument]
  | cons path more =>
    rw [fileArgument, List.cons.injEq]
    constructor
    · intro h
      split at h
      · next bytes hstat =>
        obtain ⟨rfl, rfl⟩ := Prod.mk.inj (Except.ok.inj h)
        exact ⟨⟨rfl, rfl⟩, bytes, hstat⟩
      all_goals cases h
    · rintro ⟨⟨rfl, rfl⟩, bytes, hstat⟩
      rw [hstat]

theorem noMore_eq_ok_iff {rest : List Text} : noMore rest = .ok () ↔ rest = [] := by
  cases rest <;> simp [noMore]

theorem renderRequest_eq_ok_iff {t : FileTree} {directory : Path} {words : List Text}
    {r : RenderRequest} :
    renderRequest t directory words = .ok (.render r) ↔
      ∃ given file, Accepted t directory words given file ∧ r = .ofGiven file given.value? := by
  unfold renderRequest parseWords
  simp only [bind_eq_ok_iff, mapError_eq_ok_iff]
  constructor
  · rintro ⟨given, hfits, h⟩
    split at h
    · cases h
    · next hhelp =>
      obtain ⟨q, hset, h⟩ := bind_eq_ok_iff.mp h
      obtain ⟨⟨file, rest⟩, hfile, h⟩ := bind_eq_ok_iff.mp h
      obtain ⟨⟨⟩, hrest, h⟩ := bind_eq_ok_iff.mp h
      obtain ⟨hreadable, rfl⟩ := RenderRequest.foldlM_occurring.mp hset
      obtain ⟨hpositional, hexists⟩ := fileArgument_eq_ok_iff.mp hfile
      obtain rfl := noMore_eq_ok_iff.mp hrest
      obtain rfl := Request.render.inj (Except.ok.inj h)
      exact ⟨given, file, ⟨hfits, by simpa using hhelp, hreadable, hpositional, hexists⟩, rfl⟩
  · rintro ⟨given, file, h, rfl⟩
    refine ⟨given, h.fits, ?_⟩
    rw [if_neg (by simpa using h.noHelp)]
    refine bind_eq_ok_iff.mpr ⟨_, RenderRequest.foldlM_occurring.mpr ⟨h.readable, rfl⟩, ?_⟩
    refine bind_eq_ok_iff.mpr ⟨_, fileArgument_eq_ok_iff.mpr ⟨h.oneFile, h.fileExists⟩, ?_⟩
    exact bind_eq_ok_iff.mpr ⟨(), noMore_eq_ok_iff.mpr rfl, rfl⟩

theorem locateRequest_eq_ok_iff {t : FileTree} {directory : Path} {words : List Text}
    {file : Text} {line : Int} :
    locateRequest t directory words = .ok (.locate file line) ↔
      ∃ given word, locateGrammar.parse words = .ok given ∧ .help ∉ given.occurring ∧
        given.positional = [file, word] ∧ Text.Integer.ofText? word = some line ∧
        ∃ bytes, t.stat directory file = .ok (.file bytes) := by
  unfold locateRequest parseWords
  simp only [bind_eq_ok_iff, mapError_eq_ok_iff]
  constructor
  · rintro ⟨given, hfits, h⟩
    split at h
    · cases h
    · next hhelp =>
      obtain ⟨⟨path, rest⟩, hfile, h⟩ := bind_eq_ok_iff.mp h
      obtain ⟨hpositional, hexists⟩ := fileArgument_eq_ok_iff.mp hfile
      cases rest with
      | nil => cases h
      | cons word rest =>
        obtain ⟨n, hn, h⟩ := bind_eq_ok_iff.mp h
        obtain ⟨⟨⟩, hrest, h⟩ := bind_eq_ok_iff.mp h
        obtain rfl := noMore_eq_ok_iff.mp hrest
        obtain ⟨rfl, rfl⟩ := Request.locate.inj (Except.ok.inj h)
        exact ⟨given, word, hfits, by simpa using hhelp, hpositional, integer_eq_ok_iff.mp hn, hexists⟩
  · rintro ⟨given, word, hfits, hhelp, hpositional, hline, hexists⟩
    refine ⟨given, hfits, ?_⟩
    rw [if_neg (by simpa using hhelp)]
    refine bind_eq_ok_iff.mpr ⟨_, fileArgument_eq_ok_iff.mpr ⟨hpositional, hexists⟩, ?_⟩
    refine bind_eq_ok_iff.mpr ⟨_, integer_eq_ok_iff.mpr hline, ?_⟩
    exact bind_eq_ok_iff.mpr ⟨(), noMore_eq_ok_iff.mpr rfl, rfl⟩

/-- How a command line is read, with one case for each place a request comes from. -/
inductive Reads (t : FileTree) (directory : Path) (words : List Text) : Bool → Request → Prop
  | eager {parsed : Parsed MainOption} {request : Request} :
      mainGrammar.parse words = .ok parsed → eagerRequest? parsed = some request →
      Reads t directory words false request
  | render {parsed : Parsed MainOption} {rest : List Text} {request : Request} :
      mainGrammar.parse words = .ok parsed → eagerRequest? parsed = none →
      parsed.positional = "render".toList :: rest → renderRequest t directory rest = .ok request →
      Reads t directory words (parsed.occurring.contains .verbose) request
  | locate {parsed : Parsed MainOption} {rest : List Text} {request : Request} :
      mainGrammar.parse words = .ok parsed → eagerRequest? parsed = none →
      parsed.positional = "locate".toList :: rest → locateRequest t directory rest = .ok request →
      Reads t directory words (parsed.occurring.contains .verbose) request
  /-- A word that names no command is parsed once more as an option. -/
  | eagerName {parsed again : Parsed MainOption} {name : Text} {rest : List Text}
      {request : Request} :
      mainGrammar.parse words = .ok parsed → eagerRequest? parsed = none →
      parsed.positional = name :: rest → name ≠ "render".toList → name ≠ "locate".toList →
      mainGrammar.parse (name :: rest) = .ok again → eagerRequest? again = some request →
      Reads t directory words false request

theorem readWords_eq_ok_iff {t : FileTree} {directory : Path} {words : List Text} {verbose : Bool}
    {request : Request} :
    readWords t directory words = .ok (verbose, request) ↔ Reads t directory words verbose request := by
  unfold readWords parseWords
  simp only [bind_eq_ok_iff, mapError_eq_ok_iff]
  constructor
  · rintro ⟨parsed, hparsed, h⟩
    split at h
    · next found heager =>
      obtain ⟨rfl, rfl⟩ := Prod.mk.inj (Except.ok.inj h)
      exact .eager hparsed heager
    · next heager =>
      split at h
      · cases h
      · next name rest hpositional =>
        split at h
        · next hrender =>
          subst hrender
          obtain ⟨found, hfound, h⟩ := bind_eq_ok_iff.mp h
          obtain ⟨rfl, rfl⟩ := Prod.mk.inj (Except.ok.inj h)
          exact .render hparsed heager hpositional (mapError_eq_ok_iff.mp hfound)
        · next hrender =>
          split at h
          · next hlocate =>
            subst hlocate
            obtain ⟨found, hfound, h⟩ := bind_eq_ok_iff.mp h
            obtain ⟨rfl, rfl⟩ := Prod.mk.inj (Except.ok.inj h)
            exact .locate hparsed heager hpositional (mapError_eq_ok_iff.mp hfound)
          · next hlocate =>
            obtain ⟨again, hagain, h⟩ := bind_eq_ok_iff.mp h
            split at h
            · next found hfound =>
              obtain ⟨rfl, rfl⟩ := Prod.mk.inj (Except.ok.inj h)
              exact .eagerName hparsed heager hpositional hrender hlocate
                (mapError_eq_ok_iff.mp (mapError_eq_ok_iff.mp hagain)) hfound
            · cases h
  · intro h
    cases h with
    | eager hparsed heager => exact ⟨_, hparsed, by rw [heager]; rfl⟩
    | render hparsed heager hpositional hfound =>
      refine ⟨_, hparsed, ?_⟩
      simp only [heager, hpositional, hfound]
      rfl
    | locate hparsed heager hpositional hfound =>
      refine ⟨_, hparsed, ?_⟩
      simp only [heager, hpositional, hfound]
      rfl
    | eagerName hparsed heager hpositional hrender hlocate hagain hfound =>
      refine ⟨_, hparsed, ?_⟩
      simp only [heager, hpositional, if_neg hrender, if_neg hlocate, hagain, mapError_ok]
      refine bind_eq_ok_iff.mpr ⟨_, rfl, ?_⟩
      rw [hfound]
      rfl

/-- The words ask for the log by an option of the main command. -/
def AsksForLog (words : List Text) : Prop :=
  ∃ parsed, mainGrammar.parse words = .ok parsed ∧ .verbose ∈ parsed.occurring

theorem Reads.asksForLog {t : FileTree} {directory : Path} {words : List Text} {request : Request}
    (h : Reads t directory words true request) : AsksForLog words := by
  generalize hverbose : true = verbose at h
  cases h with
  | eager => cases hverbose
  | render hparsed => exact ⟨_, hparsed, List.contains_iff_mem.mp hverbose.symm⟩
  | locate hparsed => exact ⟨_, hparsed, List.contains_iff_mem.mp hverbose.symm⟩
  | eagerName => cases hverbose

theorem eagerRequest?_cases {parsed : Parsed MainOption} {request : Request}
    (h : eagerRequest? parsed = some request) : request = .help .main ∨ request = .version := by
  obtain ⟨option, -, hoption⟩ := List.exists_of_findSome?_eq_some h
  cases option with
  | version => exact Or.inr (Option.some.inj hoption).symm
  | help => exact Or.inl (Option.some.inj hoption).symm
  | verbose => cases hoption

theorem renderRequest_cases {t : FileTree} {directory : Path} {words : List Text} {request : Request}
    (h : renderRequest t directory words = .ok request) :
    request = .help .render ∨ ∃ r, request = .render r := by
  unfold renderRequest parseWords at h
  obtain ⟨given, -, h⟩ := bind_eq_ok_iff.mp h
  split at h
  · exact Or.inl (Except.ok.inj h).symm
  · obtain ⟨r, -, h⟩ := bind_eq_ok_iff.mp h
    obtain ⟨⟨file, rest⟩, -, h⟩ := bind_eq_ok_iff.mp h
    obtain ⟨⟨⟩, -, h⟩ := bind_eq_ok_iff.mp h
    exact Or.inr ⟨_, (Except.ok.inj h).symm⟩

theorem locateRequest_cases {t : FileTree} {directory : Path} {words : List Text} {request : Request}
    (h : locateRequest t directory words = .ok request) :
    request = .help .locate ∨ ∃ file line, request = .locate file line := by
  unfold locateRequest parseWords at h
  obtain ⟨given, -, h⟩ := bind_eq_ok_iff.mp h
  split at h
  · exact Or.inl (Except.ok.inj h).symm
  · obtain ⟨⟨file, rest⟩, -, h⟩ := bind_eq_ok_iff.mp h
    cases rest with
    | nil => cases h
    | cons word rest =>
      obtain ⟨line, -, h⟩ := bind_eq_ok_iff.mp h
      obtain ⟨⟨⟩, -, h⟩ := bind_eq_ok_iff.mp h
      exact Or.inr ⟨file, line, (Except.ok.inj h).symm⟩

theorem eagerRequest?_ne_render {parsed : Parsed MainOption} {r : RenderRequest} :
    eagerRequest? parsed ≠ some (.render r) := by
  intro h
  rcases eagerRequest?_cases h with h | h <;> cases h

theorem locateRequest_ne_render {t : FileTree} {directory : Path} {words : List Text}
    {r : RenderRequest} : locateRequest t directory words ≠ .ok (.render r) := by
  intro h
  rcases locateRequest_cases h with h | ⟨file, line, h⟩ <;> cases h

/-- The numbers that a request gives. -/
def Request.numbers : Request → List Int
  | .help _ => []
  | .version => []
  | .render r => r.numbers
  | .locate _ line => [line]

theorem RenderRequest.isShort_ofGiven (file : Text) (given : RenderOption → Option Text) :
    (ofGiven file given).IsShort := by
  have hread (value : Option Text) :
      ∀ n ∈ (value.bind Text.Integer.ofText?).toList, Text.Numeral.isShort n = true := by
    intro n hn
    obtain ⟨word, -, hword⟩ := Option.bind_eq_some_iff.mp (Option.mem_toList.mp hn)
    exact Text.Integer.isShort_of_ofText? hword
  simp only [IsShort, numbers, ofGiven, List.forall_mem_append]
  exact ⟨⟨hread _, hread _⟩, hread _, hread _⟩

/-- The numbers of a request that was read are short enough to be written. -/
theorem isShort_of_readWords {t : FileTree} {directory : Path} {words : List Text} {verbose : Bool}
    {request : Request} (h : readWords t directory words = .ok (verbose, request)) :
    ∀ n ∈ request.numbers, Text.Numeral.isShort n = true := by
  have heagerly {parsed : Parsed MainOption} (heager : eagerRequest? parsed = some request) :
      ∀ n ∈ request.numbers, Text.Numeral.isShort n = true := by
    rcases eagerRequest?_cases heager with rfl | rfl <;> exact List.forall_mem_nil _
  cases readWords_eq_ok_iff.mp h with
  | eager _ heager => exact heagerly heager
  | render _ _ _ hfound =>
    rcases renderRequest_cases hfound with rfl | ⟨r, rfl⟩
    · exact List.forall_mem_nil _
    · obtain ⟨given, file, -, rfl⟩ := renderRequest_eq_ok_iff.mp hfound
      exact RenderRequest.isShort_ofGiven file given.value?
  | locate _ _ _ hfound =>
    rcases locateRequest_cases hfound with rfl | ⟨file, line, rfl⟩
    · exact List.forall_mem_nil _
    · obtain ⟨given, word, -, -, -, hline, -⟩ := locateRequest_eq_ok_iff.mp hfound
      exact List.forall_mem_singleton.mpr (Text.Integer.isShort_of_ofText? hline)
  | eagerName _ _ _ _ _ _ heager => exact heagerly heager

/-- Without any option of its own the main command has only positional words. -/
theorem Parsed.options_eq_nil {parsed : Parsed MainOption} (heager : eagerRequest? parsed = none)
    (hverbose : parsed.occurring.contains .verbose = false) : parsed.options = [] := by
  have hnone : parsed.occurring = [] := by
    rw [List.eq_nil_iff_forall_not_mem]
    intro option hoption
    have hfound := List.findSome?_eq_none_iff.mp heager option hoption
    cases option with
    | version => simp at hfound
    | help => simp at hfound
    | verbose => simp_all
  rw [List.eq_nil_iff_forall_not_mem]
  intro occurrence hoccurrence
  have hmem : occurrence.1 ∈ parsed.occurring :=
    List.mem_eraseDups.mpr (List.mem_map_of_mem hoccurrence)
  simp [hnone] at hmem

/-- The words call `render`, with no option of the main command in front of it. -/
def RenderCall (t : FileTree) (directory : Path) (words : List Text) (given : Parsed RenderOption)
    (file : Text) : Prop :=
  ∃ rest, mainGrammar.parse words = .ok { positional := "render".toList :: rest } ∧
    Accepted t directory rest given file

/-- A command line is read as a request to render exactly if it is such a call, and the
request is then that of its options. -/
theorem readWords_eq_render_iff {t : FileTree} {directory : Path} {words : List Text}
    {r : RenderRequest} :
    readWords t directory words = .ok (false, .render r) ↔
      ∃ given file, RenderCall t directory words given file ∧ r = .ofGiven file given.value? := by
  rw [readWords_eq_ok_iff]
  constructor
  · intro h
    generalize hverbose : false = verbose at h
    cases h with
    | eager _ heager => exact absurd heager eagerRequest?_ne_render
    | @render parsed rest _ hparsed heager hpositional hfound =>
      obtain ⟨given, file, haccepted, rfl⟩ := renderRequest_eq_ok_iff.mp hfound
      have hoptions := Parsed.options_eq_nil heager hverbose.symm
      obtain ⟨options, positional⟩ := parsed
      obtain rfl : options = [] := hoptions
      obtain rfl : positional = "render".toList :: rest := hpositional
      exact ⟨given, file, ⟨rest, hparsed, haccepted⟩, rfl⟩
    | locate _ _ _ hfound => exact absurd hfound locateRequest_ne_render
    | eagerName _ _ _ _ _ _ hfound => exact absurd hfound eagerRequest?_ne_render
  · rintro ⟨given, file, ⟨rest, hparsed, haccepted⟩, rfl⟩
    exact .render hparsed rfl rfl (renderRequest_eq_ok_iff.mpr ⟨given, file, haccepted, rfl⟩)

end Command

end Pinpoint
