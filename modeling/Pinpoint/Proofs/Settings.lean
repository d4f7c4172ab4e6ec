import Pinpoint.Config.Discovery
import Pinpoint.Proofs.Results

/-!
# The settings of a configuration

A setting is absent and falls back to its default, or it is written as a value that
means something, or its value is refused. A document is used exactly if no setting of
its table `render` is refused, and then every setting has the value that is written
for it. The color is looked at first, so a bad width is reported only below a good
color.

A report shows the value that it refuses. A value that holds an integer with too many
digits cannot be shown, and then the report does not say which setting it is about.
-/

namespace Pinpoint

namespace Toml.Value

/-- The integer stands in the value, at any depth. -/
inductive HoldsInteger (n : Int) : Value → Prop
  | self : HoldsInteger n (.integer n)
  | item {items : List Value} {item : Value} :
      item ∈ items → HoldsInteger n item → HoldsInteger n (.array items)
  | entry {entries : List (Text × Value)} {key : Text} {value : Value} :
      (key, value) ∈ entries → HoldsInteger n value → HoldsInteger n (.table entries)

/-- No integer in the value has more digits than a message can show. -/
def OnlyShort (value : Value) : Prop :=
  ∀ n, HoldsInteger n value → Text.Numeral.length n ≤ Text.Numeral.maxDigits

theorem onlyShort_integer_iff {n : Int} :
    OnlyShort (.integer n) ↔ Text.Numeral.length n ≤ Text.Numeral.maxDigits := by
  constructor
  · intro h
    exact h n .self
  · intro h m hm
    cases hm
    exact h

theorem onlyShort_array_iff {items : List Value} :
    OnlyShort (.array items) ↔ ∀ item ∈ items, OnlyShort item := by
  constructor
  · intro h item hitem n hn
    exact h n (.item hitem hn)
  · intro h n hn
    cases hn with
    | item hitem hn => exact h _ hitem n hn

theorem onlyShort_table_iff {entries : List (Text × Value)} :
    OnlyShort (.table entries) ↔ ∀ entry ∈ entries, OnlyShort entry.2 := by
  constructor
  · intro h entry hentry n hn
    exact h n (.entry hentry hn)
  · intro h n hn
    cases hn with
    | entry hentry hn => exact h _ hentry n hn

mutual

theorem isShowable_iff (value : Value) : value.isShowable = true ↔ value.OnlyShort := by
  cases value with
  | integer n => rw [isShowable, Text.Numeral.isShort_iff, onlyShort_integer_iff]
  | array items => rw [isShowable, allShowable_iff items, onlyShort_array_iff]
  | table entries => rw [isShowable, allEntriesShowable_iff entries, onlyShort_table_iff]
  | _ => exact iff_of_true rfl (fun n hn => by cases hn)

theorem allShowable_iff (items : List Value) :
    allShowable items = true ↔ ∀ item ∈ items, OnlyShort item := by
  cases items with
  | nil => simp [allShowable]
  | cons item rest =>
    rw [allShowable, Bool.and_eq_true, isShowable_iff item, allShowable_iff rest, List.forall_mem_cons]

theorem allEntriesShowable_iff (entries : List (Text × Value)) :
    allEntriesShowable entries = true ↔ ∀ entry ∈ entries, OnlyShort entry.2 := by
  cases entries with
  | nil => simp [allEntriesShowable]
  | cons entry rest =>
    obtain ⟨key, value⟩ := entry
    rw [allEntriesShowable, Bool.and_eq_true, isShowable_iff value, allEntriesShowable_iff rest,
      List.forall_mem_cons]

end

end Toml.Value

theorem ColorMode.ofName?_name (mode : ColorMode) : ofName? mode.name = some mode := by
  cases mode <;> rfl

theorem ColorMode.ofName?_eq_some_iff {name : Text} {mode : ColorMode} :
    ofName? name = some mode ↔ name = mode.name := by
  constructor
  · intro h
    exact (of_decide_eq_true (List.find?_some h :)).symm
  · rintro rfl
    exact mode.ofName?_name

namespace Config

/-- A setting of the table `render`: how it is named, what holds where it is absent, and
what a value that is written for it means. -/
structure Setting (α : Type) where
  name : Text
  fallback : α
  means : Toml.Value → α → Prop
  unique : ∀ {value a b}, means value a → means value b → a = b

namespace Setting

variable {α : Type} {setting : Setting α} {settings : Toml.Table}

/-- The setting has this value, as it is written or because it is absent. -/
def Is (setting : Setting α) (settings : Toml.Table) (a : α) : Prop :=
  (∃ value, settings.get? setting.name = some value ∧ setting.means value a) ∨
    settings.get? setting.name = none ∧ a = setting.fallback

/-- What is written for the setting means nothing. -/
def Refuses (setting : Setting α) (settings : Toml.Table) (value : Toml.Value) : Prop :=
  settings.get? setting.name = some value ∧ ∀ a, ¬ setting.means value a

/-- How a refused value is reported: by a message that names its setting, unless the value
cannot be shown. -/
def Reports (report : Toml.Value → Error) (value : Toml.Value) (e : Error) : Prop :=
  value.OnlyShort ∧ e = report value ∨ ¬ value.OnlyShort ∧ e = .notShowable value

theorem eq_refusal_iff {report : Toml.Value → Error} {value : Toml.Value} {e : Error} :
    e = refusal report value ↔ Reports report value e := by
  by_cases hshort : value.OnlyShort
  · rw [refusal, if_pos (value.isShowable_iff.mpr hshort)]
    simp [Reports, hshort]
  · rw [refusal, if_neg (mt value.isShowable_iff.mp hshort)]
    simp [Reports, hshort]

/-- The result is what the setting has, or a report of the value that is refused. -/
structure ReadAs (setting : Setting α) (settings : Toml.Table) (report : Toml.Value → Error)
    (result : Except Error α) : Prop where
  ok_iff : ∀ a, result = .ok a ↔ setting.Is settings a
  error_iff : ∀ e, result = .error e ↔
    ∃ value, setting.Refuses settings value ∧ Reports report value e

variable {report : Toml.Value → Error} {value : Toml.Value} {a : α}

theorem readAs_absent (h : settings.get? setting.name = none) :
    setting.ReadAs settings report (.ok setting.fallback) where
  ok_iff b := by simp [Is, h, eq_comm]
  error_iff e := by simp [Refuses, h]

theorem readAs_meant (h : settings.get? setting.name = some value) (hmeans : setting.means value a) :
    setting.ReadAs settings report (.ok a) where
  ok_iff b := by
    simp only [Is, h, Except.ok.injEq, Option.some.injEq, exists_eq_left', reduceCtorEq, false_and,
      or_false]
    constructor
    · rintro rfl
      exact hmeans
    · exact setting.unique hmeans
  error_iff e := by
    simp only [Refuses, h, reduceCtorEq, false_iff, not_exists, not_and]
    rintro other ⟨⟨⟩, hno⟩
    exact absurd hmeans (hno a)

theorem readAs_refused (h : setting.Refuses settings value) :
    setting.ReadAs settings report (.error (refusal report value)) where
  ok_iff b := by simp [Is, h.1, h.2 b]
  error_iff e := by
    simp only [Except.error.injEq, ← eq_refusal_iff]
    constructor
    · rintro rfl
      exact ⟨value, h, rfl⟩
    · rintro ⟨other, hother, rfl⟩
      obtain rfl := Option.some.inj (h.1.symm.trans hother.1)
      rfl

end Setting

/-- One of the names of the color modes. -/
def colorSetting : Setting ColorMode where
  name := "color".toList
  fallback := .auto
  means value mode := value = .string mode.name
  unique {value mode other} hmode hother := by
    have hname := Toml.Value.string.inj (hmode.symm.trans hother)
    exact Option.some.inj (mode.ofName?_name.symm.trans (hname ▸ other.ofName?_name))

/-- A positive integer. -/
def widthSetting : Setting Nat where
  name := "header_width".toList
  fallback := 80
  means value width := value = .integer width ∧ 1 ≤ width
  unique ha hb := Int.ofNat.inj (Toml.Value.integer.inj (ha.1.symm.trans hb.1))

theorem colorOf_readAs (path : Text) (settings : Toml.Table) :
    colorSetting.ReadAs settings (.badColor path) (colorOf path settings) := by
  unfold colorOf
  split
  · next habsent => exact Setting.readAs_absent habsent
  · next name hwritten =>
    split
    · next mode hmode =>
      obtain rfl := ColorMode.ofName?_eq_some_iff.mp hmode
      exact Setting.readAs_meant hwritten rfl
    · next hnone =>
      refine Setting.readAs_refused ⟨hwritten, ?_⟩
      rintro mode hmode
      obtain rfl := Toml.Value.string.inj hmode
      rw [mode.ofName?_name] at hnone
      cases hnone
  · next value hother hwritten =>
    refine Setting.readAs_refused ⟨hwritten, ?_⟩
    rintro mode rfl
    exact hother _ rfl

theorem widthOf_readAs (path : Text) (settings : Toml.Table) :
    widthSetting.ReadAs settings (.badWidth path) (widthOf path settings) := by
  unfold widthOf
  split
  · next habsent => exact Setting.readAs_absent habsent
  · next width hwritten =>
    split
    · next hpos =>
      refine Setting.readAs_meant hwritten ⟨?_, ?_⟩
      · rw [Int.toNat_of_nonneg (by omega)]
      · omega
    · next hneg =>
      refine Setting.readAs_refused ⟨hwritten, ?_⟩
      rintro n ⟨hn, hpos⟩
      have := Toml.Value.integer.inj hn
      omega
  · next value hother hwritten =>
    refine Setting.readAs_refused ⟨hwritten, ?_⟩
    rintro n ⟨rfl, -⟩
    exact hother _ rfl

/-- The settings of a document: its table `render`, or none where it has no such key. -/
def HasSettings (document settings : Toml.Table) : Prop :=
  document.get? "render".toList = some (.table settings) ∨
    document.get? "render".toList = none ∧ settings = []

/-- The error is about the first setting that is refused: a bad color, or a bad width
below a good color. -/
inductive FirstRefused (path : Text) (settings : Toml.Table) (e : Error) : Prop
  | color {value : Toml.Value} : colorSetting.Refuses settings value →
      Setting.Reports (.badColor path) value e → FirstRefused path settings e
  | width {mode : ColorMode} {value : Toml.Value} : colorSetting.Is settings mode →
      widthSetting.Refuses settings value → Setting.Reports (.badWidth path) value e →
      FirstRefused path settings e

section

variable {path : Text} {document settings : Toml.Table}

theorem ofDocument_of_hasSettings (h : HasSettings document settings) :
    ofDocument path document = do
      let color ← colorOf path settings
      let headerWidth ← widthOf path settings
      return { color, headerWidth } := by
  unfold ofDocument
  rcases h with h | ⟨h, rfl⟩
  · rw [h]
  · rw [h]
    rfl

theorem ofDocument_eq_ok_iff (h : HasSettings document settings) {config : Config} :
    ofDocument path document = .ok config ↔
      colorSetting.Is settings config.color ∧ widthSetting.Is settings config.headerWidth := by
  rw [ofDocument_of_hasSettings h]
  simp only [bind_eq_ok_iff, (colorOf_readAs path settings).ok_iff, (widthOf_readAs path settings).ok_iff]
  constructor
  · rintro ⟨color, hcolor, width, hwidth, hconfig⟩
    obtain rfl := Except.ok.inj hconfig
    exact ⟨hcolor, hwidth⟩
  · rintro ⟨hcolor, hwidth⟩
    exact ⟨config.color, hcolor, config.headerWidth, hwidth, rfl⟩

theorem ofDocument_eq_error_iff (h : HasSettings document settings) {e : Error} :
    ofDocument path document = .error e ↔ FirstRefused path settings e := by
  rw [ofDocument_of_hasSettings h]
  simp only [bind_eq_error_iff, (colorOf_readAs path settings).ok_iff,
    (colorOf_readAs path settings).error_iff, (widthOf_readAs path settings).error_iff]
  constructor
  · rintro (⟨value, hvalue, he⟩ | ⟨mode, hmode, ⟨value, hvalue, he⟩ | ⟨width, -, hconfig⟩⟩)
    · exact .color hvalue he
    · exact .width hmode hvalue he
    · cases hconfig
  · intro hrefused
    cases hrefused with
    | color hvalue he => exact Or.inl ⟨_, hvalue, he⟩
    | width hmode hvalue he => exact Or.inr ⟨_, hmode, Or.inl ⟨_, hvalue, he⟩⟩

/-- Only what is written for the two settings matters. -/
theorem ofDocument_congr {other others : Toml.Table} (h : HasSettings document settings)
    (hother : HasSettings other others)
    (hcolor : others.get? colorSetting.name = settings.get? colorSetting.name)
    (hwidth : others.get? widthSetting.name = settings.get? widthSetting.name) :
    ofDocument path other = ofDocument path document := by
  have hcolorOf : colorOf path others = colorOf path settings := by
    unfold colorOf
    rw [show others.get? "color".toList = settings.get? "color".toList from hcolor]
  have hwidthOf : widthOf path others = widthOf path settings := by
    unfold widthOf
    rw [show others.get? "header_width".toList = settings.get? "header_width".toList from hwidth]
  rw [ofDocument_of_hasSettings h, ofDocument_of_hasSettings hother, hcolorOf, hwidthOf]

end

theorem widthSetting_pos {settings : Toml.Table} {width : Nat} (h : widthSetting.Is settings width) :
    1 ≤ width := by
  rcases h with ⟨value, -, -, hpos⟩ | ⟨-, rfl⟩
  · exact hpos
  · decide

/-- The file at a path is read as this document. -/
def ReadsDocument (t : FileTree) (directory : Path) (path : Text) (document : Toml.Table) : Prop :=
  ∃ bytes text, t.read directory (FileTree.tidy path) = .ok bytes ∧
    Text.Utf8.decode bytes = .ok text ∧ Toml.parse text = .ok document

section

variable {t : FileTree} {directory : Path} {path : Text} {document settings : Toml.Table}

theorem load_of_readsDocument (h : ReadsDocument t directory path document) :
    load t directory path = ofDocument (FileTree.tidy path) document := by
  obtain ⟨bytes, text, hbytes, htext, hdocument⟩ := h
  simp only [load, ofBytes, hbytes, htext, hdocument, mapError_ok, bind, Except.bind]

/-- A file is loaded exactly if each of the two settings of its document is absent or
written as a value that means something, and what is loaded are these settings.
Otherwise the first setting that is refused is reported, with its name and the value in
the message; only a value that holds an integer too long to be shown is reported without
a name. Nothing else in the document matters, and no width is zero. -/
theorem load_settings (hdocument : ReadsDocument t directory path document)
    (hsettings : HasSettings document settings) :
    let place := FileTree.tidy path
    (∀ config, load t directory path = .ok config ↔
      colorSetting.Is settings config.color ∧ widthSetting.Is settings config.headerWidth) ∧
    (∀ e, load t directory path = .error e ↔ FirstRefused place settings e) ∧
    (∀ value, (Error.badColor place value).message =
      place ++ ": render.color must be one of auto, always, never (got ".toList ++ value.literal ++ [')']) ∧
    (∀ value, (Error.badWidth place value).message =
      place ++ ": render.header_width must be a positive integer (got ".toList ++ value.literal ++ [')']) ∧
    (∀ u other document' settings', ReadsDocument u other path document' →
      HasSettings document' settings' →
      settings'.get? colorSetting.name = settings.get? colorSetting.name →
      settings'.get? widthSetting.name = settings.get? widthSetting.name →
      load u other path = load t directory path) ∧
    ∀ config, load t directory path = .ok config → 1 ≤ config.headerWidth := by
  rw [load_of_readsDocument hdocument]
  refine ⟨fun config => ofDocument_eq_ok_iff hsettings, fun e => ofDocument_eq_error_iff hsettings,
    fun _ => rfl, fun _ => rfl, ?_, ?_⟩
  · intro u other document' settings' hdocument' hsettings' hcolor hwidth
    rw [load_of_readsDocument hdocument']
    exact ofDocument_congr hsettings hsettings' hcolor hwidth
  · intro config hconfig
    exact widthSetting_pos ((ofDocument_eq_ok_iff hsettings).mp hconfig).2

end

/-- Both settings are bad, and other keys stand around them. -/
theorem load_settings_both_bad :
    let t : FileTree :=
      { top := "/w".toList
        entries := [([fileName], .file (Text.Utf8.encode
          "a = 1\n[render]\nheader_width = true\ncolor = 'blue'".toList))] }
    let settings : Toml.Table :=
      [("header_width".toList, .boolean true), ("color".toList, .string "blue".toList)]
    let document : Toml.Table := [(['a'], .integer 1), ("render".toList, .table settings)]
    (ReadsDocument t [] fileName document ∧ HasSettings document settings) ∧
    load t [] fileName = .error (.badColor fileName (.string "blue".toList)) := by
  intro t settings document
  have hdocument : ReadsDocument t [] fileName document := by
    refine ⟨_, "a = 1\n[render]\nheader_width = true\ncolor = 'blue'".toList, rfl, ?_, ?_⟩
    · exact toOption_eq_some_iff.mp (by decide +kernel)
    · exact toOption_eq_some_iff.mp (by decide +kernel)
  have hsettings : HasSettings document settings := Or.inl rfl
  have hrefused : colorSetting.Refuses settings (.string "blue".toList) := by
    refine ⟨rfl, fun mode hmode => ?_⟩
    cases mode <;> exact absurd (Toml.Value.string.inj hmode) (by decide)
  have hshort : Toml.Value.OnlyShort (.string "blue".toList) := by
    intro n hn
    cases hn
  have hload := ((load_settings hdocument hsettings).2.1 _).mpr (.color hrefused (Or.inl ⟨hshort, rfl⟩))
  exact ⟨⟨hdocument, hsettings⟩, hload⟩

/-- The name of the setting is missing below a color of 4302 digits. -/
theorem load_hides_setting :
    let source : Text := "render.color=0x1".toList ++ List.replicate 3572 '0'
    let t : FileTree :=
      { top := "/w".toList, entries := [([fileName], .file (Text.Utf8.encode source))] }
    let color : Toml.Value := .integer (Nat.pow 16 3572)
    let settings : Toml.Table := [("color".toList, color)]
    let document : Toml.Table := [("render".toList, .table settings)]
    ReadsDocument t [] fileName document ∧ HasSettings document settings ∧
    colorSetting.Refuses settings color ∧
    ∃ error, load t [] fileName = .error error ∧ ¬ "render.color".toList <:+: error.message := by
  intro source t color settings document
  have hdocument : ReadsDocument t [] fileName document := by
    refine ⟨Text.Utf8.encode source, source, rfl, ?_, ?_⟩
    · exact toOption_eq_some_iff.mp (by decide +kernel)
    · exact toOption_eq_some_iff.mp (by decide +kernel)
  have hrefused : colorSetting.Refuses settings color := by
    refine ⟨rfl, fun mode (hmode : Toml.Value.integer _ = .string mode.name) => ?_⟩
    cases hmode
  have hlong : ¬ color.OnlyShort := by
    rw [Toml.Value.onlyShort_integer_iff, Text.Numeral.length_le_iff (by decide)]
    decide +kernel
  have hload : load t [] fileName = .error (.notShowable color) := by
    rw [load_of_readsDocument hdocument]
    exact (ofDocument_eq_error_iff (Or.inl rfl)).mpr (.color hrefused (Or.inr ⟨hlong, rfl⟩))
  exact ⟨hdocument, Or.inl rfl, hrefused, _, hload, by decide +kernel⟩

end Config

end Pinpoint
