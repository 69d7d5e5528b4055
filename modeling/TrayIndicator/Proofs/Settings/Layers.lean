import TrayIndicator.Settings.Basic

/-!
# Layers of values

Values can be laid over settings again and again; the result is checked after each layer.
As long as no check fails, this is what the merged values give at once: of each value the
last one counts, and the tilde is expanded if any layer asks for it. Over valid settings a
layer fails exactly if it has a blank value itself, so the layers below never matter.
-/

namespace TrayIndicator

namespace Overrides

/-- The value given for a required setting. -/
def required? (given : Overrides) : RequiredSetting → Option String
  | .logFile => given.logFile
  | .opener => given.opener
  | .companion => given.companion

/-- The first required setting for which a blank value is given. -/
def blank? (given : Overrides) : Option RequiredSetting :=
  [.logFile, .opener, .companion].find? fun setting => (given.required? setting).any Text.isBlank

/-- Nothing given is nothing blank. -/
@[simp]
theorem blank?_none : Overrides.none.blank? = Option.none := rfl

/-- The values of several layers as one: the last that is given of each. -/
def merged (layers : List Overrides) : Overrides where
  iconPath := layers.reverse.findSome? (·.iconPath)
  logFile := layers.reverse.findSome? (·.logFile)
  opener := layers.reverse.findSome? (·.opener)
  companion := layers.reverse.findSome? (·.companion)
  expandHome := layers.any (·.expandHome)

/-- No layers give nothing. -/
@[simp]
theorem merged_nil : merged [] = Overrides.none := rfl

end Overrides

namespace Settings

/-- A value that is given for a required setting replaces it. -/
theorem required_layered (settings : Settings) (given : Overrides) (setting : RequiredSetting) :
    (settings.layered given).required setting =
      (given.required? setting).getD (settings.required setting) := by
  cases setting <;> rfl

/-- Settings are valid exactly if no required one is blank. -/
theorem missing?_eq_none_iff {settings : Settings} :
    settings.missing? = none ↔
      ∀ setting, Text.isBlank (settings.required setting) = false := by
  simp only [missing?, List.find?_eq_none, Bool.not_eq_true]
  constructor
  · intro h setting
    exact h setting (by cases setting <;> decide)
  · intro h setting _
    exact h setting

/-- What is blank over valid settings was given so. -/
theorem missing?_layered {settings : Settings} (hvalid : settings.missing? = none)
    (given : Overrides) : (settings.layered given).missing? = given.blank? := by
  rw [missing?_eq_none_iff] at hvalid
  have hblank : (fun setting => Text.isBlank ((settings.layered given).required setting)) =
      fun setting => (given.required? setting).any Text.isBlank := by
    funext setting
    rw [required_layered]
    cases given.required? setting with
    | none => exact hvalid setting
    | some value => rfl
  rw [missing?, hblank, Overrides.blank?]

/-- A layer over valid settings fails with its own first blank value, and else is laid. -/
theorem withOverrides_eq {settings : Settings} (hvalid : settings.missing? = none)
    (given : Overrides) :
    settings.withOverrides given =
      match given.blank? with
      | some setting => .error (.missing setting)
      | none => .ok (settings.layered given) := by
  have hmissing := missing?_layered hvalid given
  cases hblank : given.blank? with
  | none =>
    rw [hblank] at hmissing
    simp only [withOverrides, checked, hmissing]
  | some setting =>
    rw [hblank] at hmissing
    simp only [withOverrides, checked, hmissing]

/-- A layer without blank values leaves valid settings valid. -/
theorem missing?_of_withOverrides {settings next : Settings} {given : Overrides}
    (h : settings.withOverrides given = .ok next) : next.missing? = none := by
  have hnext := eq_of_checked h
  subst hnext
  unfold withOverrides checked at h
  cases hmissing : (settings.layered given).missing? with
  | some setting =>
    rw [hmissing] at h
    cases h
  | none => rfl

/-- A first layer counts as laid under the others. -/
theorem layered_merged (settings : Settings) (first : Overrides) (rest : List Overrides) :
    (settings.layered first).layered (.merged rest) =
      settings.layered (.merged (first :: rest)) := by
  have hlast {α : Type} (value : Overrides → Option α) (fallback : α) :
      (rest.reverse.findSome? value).getD ((value first).getD fallback) =
        ((first :: rest).reverse.findSome? value).getD fallback := by
    rw [List.reverse_cons, List.findSome?_append, List.findSome?_singleton]
    cases rest.reverse.findSome? value <;> rfl
  simp only [layered, Overrides.merged, hlast, List.any_cons, Bool.or_assoc]

/-- The settings after several layers, each checked, unless one of them fails. -/
def withLayers (settings : Settings) (layers : List Overrides) : Except SettingsError Settings :=
  layers.foldlM withOverrides settings

/-- A first layer is laid and checked before the others. -/
theorem withLayers_cons (settings : Settings) (first : Overrides) (rest : List Overrides) :
    settings.withLayers (first :: rest) =
      (settings.withOverrides first >>= fun next => next.withLayers rest) :=
  List.foldlM_cons

/-- Layers over valid settings fail with the first blank value of the first layer that has
one; else they leave what the merged values give. -/
theorem withLayers_eq {settings : Settings} (hvalid : settings.missing? = none)
    (layers : List Overrides) :
    settings.withLayers layers =
      match layers.findSome? Overrides.blank? with
      | some setting => .error (.missing setting)
      | none => .ok (settings.layered (.merged layers)) := by
  induction layers generalizing settings with
  | nil =>
    rw [Overrides.merged_nil, layered_none]
    rfl
  | cons first rest ih =>
    rw [withLayers_cons, withOverrides_eq hvalid, List.findSome?_cons]
    cases hblank : first.blank? with
    | some setting => rfl
    | none =>
      have hnext : (settings.layered first).missing? = none := by
        rw [missing?_layered hvalid, hblank]
      rw [← layered_merged]
      exact ih hnext

/-- What is blank in merged values is blank in one of the layers. -/
theorem blank?_merged {layers : List Overrides} (h : layers.findSome? Overrides.blank? = none) :
    (Overrides.merged layers).blank? = none := by
  rw [List.findSome?_eq_none_iff] at h
  have hlast (value : Overrides → Option String)
      (hvalue : ∀ given ∈ layers, (value given).any Text.isBlank = false) :
      (layers.reverse.findSome? value).any Text.isBlank = false := by
    cases hfound : layers.reverse.findSome? value with
    | none => rfl
    | some text =>
      obtain ⟨given, hmem, hgiven⟩ := List.exists_of_findSome?_eq_some hfound
      rw [← hgiven]
      exact hvalue given (List.mem_reverse.mp hmem)
  have hown : ∀ given ∈ layers, ∀ setting,
      (given.required? setting).any Text.isBlank = false := by
    intro given hmem setting
    have hblank := h given hmem
    rw [Overrides.blank?, List.find?_eq_none] at hblank
    exact Bool.not_eq_true _ ▸ hblank setting (by cases setting <;> decide)
  rw [Overrides.blank?, List.find?_eq_none]
  intro setting _
  rw [Bool.not_eq_true]
  cases setting with
  | logFile => exact hlast (·.logFile) fun given hmem => hown given hmem .logFile
  | opener => exact hlast (·.opener) fun given hmem => hown given hmem .opener
  | companion => exact hlast (·.companion) fun given hmem => hown given hmem .companion

/-- Layers over valid settings succeed exactly if none has a blank value. -/
theorem withLayers_eq_ok_iff {settings result : Settings} (hvalid : settings.missing? = none)
    {layers : List Overrides} :
    settings.withLayers layers = .ok result ↔
      layers.findSome? Overrides.blank? = none ∧ result = settings.layered (.merged layers) := by
  rw [withLayers_eq hvalid]
  cases layers.findSome? Overrides.blank? <;> simp [eq_comm]

/-- Layers over valid settings, one after the other. Every layer finds valid settings,
fails exactly if it gives a blank value itself, with the first such setting, and else
leaves valid settings of the same file and tooltip, with the tilde expanded if it was; a
layer of nothing changes nothing. Together the layers fail with the first that fails, and
else do what the merged values do at once. -/
theorem layers_compose {settings : Settings} (hvalid : settings.missing? = none)
    (layers : List Overrides) :
    (∀ before given after, layers = before ++ given :: after →
      ∀ middle, settings.withLayers before = .ok middle →
        middle.missing? = none ∧
        middle.withOverrides .none = .ok middle ∧
        (∀ error, middle.withOverrides given = .error error ↔
          ∃ setting, given.blank? = some setting ∧ error = .missing setting) ∧
        (∀ next, middle.withOverrides given = .ok next →
          next.missing? = none ∧ next.path = middle.path ∧ next.tooltip = middle.tooltip ∧
            (middle.expandHome = true → next.expandHome = true))) ∧
    (∀ result, settings.withLayers layers = .ok result →
      settings.withOverrides (.merged layers) = .ok result ∧ result.missing? = none ∧
        result.path = settings.path ∧ result.tooltip = settings.tooltip ∧
        (result.expandHome = true ↔
          settings.expandHome = true ∨ ∃ given ∈ layers, given.expandHome = true)) ∧
    (∀ error, settings.withLayers layers = .error error ↔
      ∃ setting, layers.findSome? Overrides.blank? = some setting ∧ error = .missing setting) := by
  refine ⟨?_, ?_, ?_⟩
  · intro before given after _ middle hmiddle
    obtain ⟨hblank, hmerged⟩ := (withLayers_eq_ok_iff hvalid).mp hmiddle
    have hmiddleValid : middle.missing? = none := by
      rw [hmerged, missing?_layered hvalid, blank?_merged hblank]
    refine ⟨hmiddleValid, ?_, ?_, ?_⟩
    · rw [withOverrides_eq hmiddleValid, Overrides.blank?_none, layered_none]
    · intro error
      rw [withOverrides_eq hmiddleValid]
      cases given.blank? <;> simp [eq_comm]
    · intro next hnext
      refine ⟨missing?_of_withOverrides hnext, ?_⟩
      rw [eq_of_checked hnext]
      exact ⟨rfl, rfl, fun hexpands => by rw [layered, hexpands, Bool.true_or]⟩
  · intro result hresult
    obtain ⟨hblank, hmerged⟩ := (withLayers_eq_ok_iff hvalid).mp hresult
    have honce : settings.withOverrides (.merged layers) = .ok result := by
      rw [withOverrides_eq hvalid, blank?_merged hblank, hmerged]
    refine ⟨honce, missing?_of_withOverrides honce, ?_⟩
    rw [hmerged]
    exact ⟨rfl, rfl, by simp [layered, Overrides.merged]⟩
  · intro error
    rw [withLayers_eq hvalid]
    cases layers.findSome? Overrides.blank? <;> simp [eq_comm]

/-- Two layers over the defaults that replace each other's log file, and a third that
gives a blank companion. -/
theorem layers_compose_over_defaults :
    let first : Overrides := ⟨none, some "/var/log/syncrop.log", some "gio-open", none, true⟩
    let second : Overrides := ⟨none, some "~/a.log", none, some "gui", false⟩
    let blank : Overrides := ⟨none, none, none, some " ", false⟩
    let laid : Settings :=
      { default with
        logFile := "~/a.log", opener := "gio-open", companion := "gui", expandHome := true }
    default.missing? = none ∧ default.withLayers [first, second] = .ok laid ∧
      default.withOverrides ⟨none, some "~/a.log", some "gio-open", some "gui", true⟩ = .ok laid ∧
      laid.withOverrides blank = .error (.missing .companion) ∧
      default.withLayers [first, second, blank] = .error (.missing .companion) := by
  intro first second blank laid
  have hvalid : default.missing? = none := by decide
  have hlaid : default.withLayers [first, second] = .ok laid :=
    (withLayers_eq_ok_iff hvalid).mpr ⟨by decide, by decide⟩
  obtain ⟨hsteps, -, hfails⟩ := layers_compose hvalid [first, second, blank]
  obtain ⟨-, hmerged, -⟩ := layers_compose hvalid [first, second]
  obtain ⟨-, -, hblank, -⟩ := hsteps [first, second] blank [] rfl laid hlaid
  exact ⟨hvalid, hlaid, (hmerged laid hlaid).1, (hblank _).mpr ⟨.companion, rfl, rfl⟩,
    (hfails _).mpr ⟨.companion, rfl, rfl⟩⟩

end Settings

end TrayIndicator
