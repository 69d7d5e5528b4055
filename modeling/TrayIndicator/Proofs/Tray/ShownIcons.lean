import TrayIndicator.Proofs.Files.Lookup
import TrayIndicator.Proofs.Icon.TrayFile
import TrayIndicator.Proofs.Tray.Lifetime
import TrayIndicator.Proofs.Tray.MainLoop

/-!
# Icons that are shown

Both trays show an icon of the right shape, whatever the icon's file holds. The
status item publishes one image of 32 by 32 pixels for good. A toolkit that refuses
only images with a wrong number of bytes refuses none, so every icon of the event
loop has its image.

What a toolkit's conversion does otherwise is not described: it is a parameter.
-/

namespace TrayIndicator.Tray

/-- Does a conversion of images refuse only those that have not four bytes for each
pixel? It answers with the failure, if there is one. -/
def RefusesOnlyBadLengths (convert : Icon.Image → Option IoError) : Prop :=
  ∀ image, (convert image).isSome = true → image.rgba.length ≠ 4 * (image.width * image.height)

/-- A call in which the toolkit converts the image that is loaded. -/
def LoopCall.converting (convert : Icon.Image → Option IoError) (settings : Settings) :
    LoopCall → LoopCall
  | .resumed world answers =>
    .resumed world
      { answers with image := convert (Icon.readOrPlaceholder world settings.iconPath).1 }
  | call => call

/-- Does an icon have its image, in the right shape? -/
def TrayIcon.ShowsImage (icon : TrayIcon) : Prop :=
  ∃ image, icon.image = some image ∧ image.FitsTray

/-- A conversion that refuses only bad lengths takes every image that is loaded. -/
theorem RefusesOnlyBadLengths.convert_loaded {convert : Icon.Image → Option IoError}
    (h : RefusesOnlyBadLengths convert) (world : World) (path : Path) :
    convert (Icon.readOrPlaceholder world path).1 = none := by
  have hfits := Icon.readOrPlaceholder_fitsTray world path
  by_contra hrefused
  have hlength := h _ (Option.isSome_iff_ne_none.mpr hrefused)
  rw [hfits.length_rgba, hfits.width_eq, hfits.height_eq] at hlength
  exact hlength rfl

/-- Loading an image misses none: what it tells is only that the placeholder is used. -/
theorem misses_no_image_of_loaded (world : World) (path : Path) :
    ∀ event ∈ (Icon.readOrPlaceholder world path).2, event.message ≠ "Tray icon has no image" := by
  unfold Icon.readOrPlaceholder
  split
  · simp
  · simp [Icon.unusableEvent]

/-- Where the toolkit converts the image, an icon that is built has it, and no event
misses it. -/
theorem buildIcon_of_converted (world : World) (settings : Settings) {answers : BuildAnswers}
    (himage : answers.image = none) :
    (∀ icon, (buildIcon world settings answers).1 = .ok icon → icon.ShowsImage) ∧
      ∀ event ∈ (buildIcon world settings answers).2, event.message ≠ "Tray icon has no image" := by
  have hfits := Icon.readOrPlaceholder_fitsTray world settings.iconPath
  have hloaded := misses_no_image_of_loaded world settings.iconPath
  unfold buildIcon
  extract_lets refused loaded events
  have hevents : events = loaded.2 := by
    simp only [events, himage, Option.map_none, Option.toList_none, List.append_nil]
  by_cases hrefused : refused = true
  · rw [if_pos hrefused]
    exact ⟨by simp, by simp⟩
  · rw [if_neg hrefused, hevents]
    cases answers.icon with
    | some failure => exact ⟨by simp, hloaded⟩
    | none =>
      constructor
      · intro icon hicon
        rw [← Except.ok.inj hicon, himage]
        exact ⟨loaded.1, rfl, hfits⟩
      · intro event hevent
        rcases List.mem_append.mp hevent with hevent | hevent
        · exact hloaded event hevent
        · rw [List.mem_singleton.mp hevent]
          simp [builtEvent]

section Runs

variable {σ : Type} (indicator : Indicator σ) {convert : Icon.Image → Option IoError}

/-- What is true of the icons after a call if the toolkit converts the image: they
have theirs, and resuming the application misses none. -/
def Visit.ShowsImages (visit : Visit σ) : Prop :=
  (∀ icon ∈ visit.app.icons, icon.ShowsImage) ∧
    ∀ world answers, visit.call = .resumed world answers →
      ∀ event ∈ visit.events, event.message ≠ "Tray icon has no image"

/-- Resuming the application keeps that every icon has its image, if the toolkit converts
the image that is loaded. -/
theorem resume_showsImages (world : World) {answers : BuildAnswers} (himage : answers.image = none)
    {app : App σ} (happ : ∀ icon ∈ app.icons, icon.ShowsImage) :
    (App.answer indicator (.resumed world answers) app).ShowsImages := by
  obtain ⟨hicon, hevents⟩ := buildIcon_of_converted world indicator.settings himage
  by_cases hbuilt : app.icons = []
  · simp only [App.answer, App.resume, hbuilt, List.isEmpty_nil, if_true]
    cases hattempt : buildIcon world indicator.settings answers with
    | mk outcome events =>
      rw [hattempt] at hicon hevents
      cases outcome with
      | ok icon => exact ⟨by simpa using hicon icon rfl, fun _ _ _ => hevents⟩
      | error error =>
        refine ⟨by simp, fun _ _ _ event hevent => ?_⟩
        rcases List.mem_append.mp hevent with hevent | hevent
        · exact hevents event hevent
        · rw [List.mem_singleton.mp hevent]
          simp [notBuiltEvent]
  · rw [answer_resumed_of_built indicator hbuilt]
    exact ⟨happ, by simp⟩

/-- One call keeps that every icon has its image. -/
theorem answer_showsImages (hconvert : RefusesOnlyBadLengths convert) (call : LoopCall)
    {app : App σ} (happ : ∀ icon ∈ app.icons, icon.ShowsImage) :
    (App.answer indicator (call.converting convert indicator.settings) app).ShowsImages := by
  cases call with
  | resumed world answers =>
    have himage := hconvert.convert_loaded world indicator.settings.iconPath
    exact resume_showsImages indicator world himage happ
  | windowEvent => exact ⟨happ, by simp [App.answer, LoopCall.converting]⟩
  | aboutToWait queued =>
    have hsame : (LoopCall.aboutToWait queued).converting convert indicator.settings =
        .aboutToWait queued := rfl
    have hicons := (answer_pass indicator queued app).2.1
    rw [hsame]
    constructor
    · rw [hicons]
      exact happ
    · intro world answers hcall
      cases hcall

/-- Any calls keep that every icon has its image. -/
theorem visits_showImages (hconvert : RefusesOnlyBadLengths convert) (calls : List LoopCall)
    {app : App σ} (happ : ∀ icon ∈ app.icons, icon.ShowsImage) :
    ∀ visit ∈ App.visits indicator (calls.map (·.converting convert indicator.settings)) app,
      visit.ShowsImages := by
  induction calls generalizing app with
  | nil => simp [App.visits]
  | cons call calls ih =>
    have hfirst := answer_showsImages indicator hconvert call happ
    rw [List.map_cons, App.visits]
    exact List.forall_mem_cons.mpr ⟨hfirst, ih hfirst.1⟩

/-- Every icon is an image of 32 by 32 pixels with four bytes each. This holds of what
is decoded from any bytes, and of what loading comes to for any path in any world; one
warning is told if the file cannot be used, and nothing if it can. A published item
shows exactly one image of that size, whatever happens to it. If the toolkit refuses
only images with a wrong number of bytes, every icon of the event loop has its image,
and no attempt to build it misses one. -/
theorem every_icon_fits_tray :
    (∀ file image, Icon.decode file = .ok image → image.FitsTray) ∧
    (∀ world path,
      (Icon.readOrPlaceholder world path).1.FitsTray ∧
      (∀ image, Icon.read world path = .ok image →
        Icon.readOrPlaceholder world path = (image, [])) ∧
      ∀ error, Icon.read world path = .error error →
        Icon.readOrPlaceholder world path =
          (Icon.placeholder, [⟨.warn, .icon, "Using placeholder tray icon",
            [("path", path.shown), ("error", error.message)]⟩])) ∧
    (∀ {σ : Type} (world : World) (indicator : Indicator σ) (launcher : σ)
        (events : List TrayEvent),
      let tray := ((LiveTray.publish world indicator launcher).state.run events).state
      ∃ pixmap, tray.appearance.pixmaps = [pixmap] ∧
        pixmap.width = 32 ∧ pixmap.height = 32 ∧ pixmap.argb.length = 4096) ∧
    ∀ {σ : Type} (indicator : Indicator σ) (launcher : σ) (calls : List LoopCall)
        (convert : Icon.Image → Option IoError), RefusesOnlyBadLengths convert →
      ∀ visit ∈ App.visits indicator (calls.map (·.converting convert indicator.settings))
          (App.start launcher),
        (∀ icon ∈ visit.app.icons, ∃ image, icon.image = some image ∧ image.FitsTray) ∧
        ∀ world answers, visit.call = .resumed world answers →
          ∀ event ∈ visit.events, event.message ≠ "Tray icon has no image" := by
  refine ⟨fun file image => Icon.fitsTray_of_decode, fun world path => ⟨?_, ?_, ?_⟩, ?_, ?_⟩
  · exact Icon.readOrPlaceholder_fitsTray world path
  · intro image hread
    rw [Icon.readOrPlaceholder, hread]
  · intro error hread
    rw [Icon.readOrPlaceholder, hread]
    rfl
  · intro σ world indicator launcher events tray
    have hitem : tray.item = (StatusItem.create world indicator).1 := LiveTray.run_item events _
    refine ⟨tray.item.pixmap, rfl, ?_⟩
    rw [hitem]
    exact (Icon.readOrPlaceholder_fitsTray world indicator.settings.iconPath).pixmap
  · intro σ indicator launcher calls convert hconvert
    exact visits_showImages indicator hconvert calls (by simp [App.start])

/-- A clear icon whose rows are filtered by the last filter is read and shown, a missing
one gives the placeholder with its warning, and a toolkit that counts bytes makes an image
of the first. -/
theorem clear_icon_and_missing_icon_shown :
    let file := (Icon.Png.TrayFile.ofPixels (Vector.replicate 4096 0) fun _ => .paeth).bytes
    let image : Icon.Image := ⟨32, 32, List.replicate 4096 0⟩
    let world : World :=
      ⟨[], Path.ofText "/", ⟨[([Text.bytes "i"], .file file 0o644)]⟩, none, fun _ => none⟩
    let settings : Settings := { Settings.default with iconPath := Path.ofText "/i" }
    let indicator : Indicator Recording := ⟨settings, none, Launcher.scripted⟩
    let convert (image : Icon.Image) : Option IoError :=
      if image.rgba.length = 4 * (image.width * image.height) then none else some (.os 22)
    let call : LoopCall := .resumed world ⟨none, none, none⟩
    let visit := App.answer indicator (call.converting convert settings) (App.start ⟨[], []⟩)
    (Icon.decode file = .ok image ∧ image.FitsTray) ∧
      (Icon.read world settings.iconPath = .ok image ∧
        Icon.readOrPlaceholder world settings.iconPath = (image, [])) ∧
      (let missing := Path.ofText "/n"
      let error := Icon.IconError.unreadable missing .notFound
      Icon.read world missing = .error error ∧
        Icon.readOrPlaceholder world missing = (Icon.placeholder,
          [⟨.warn, .icon, "Using placeholder tray icon",
            [("path", missing.shown), ("error", error.message)]⟩])) ∧
      RefusesOnlyBadLengths convert ∧
      (∃ icon image, visit.app.icons = [icon] ∧ icon.image = some image ∧ image.FitsTray) ∧
      ∀ event ∈ visit.events, event.message ≠ "Tray icon has no image" := by
  intro file image world settings indicator convert call visit
  have hdecoded : Icon.decode file = .ok image := by
    have hpixels := Icon.Png.TrayFile.decode_bytes
      (.ofPixels (Vector.replicate 4096 0) fun _ => .paeth)
    rw [Icon.Png.TrayFile.ofPixels, Vector.toList_replicate] at hpixels
    exact hpixels
  have hthere : settings.iconPath = ⟨Path.slash :: Text.bytes "i"⟩ := by decide
  have hnot : Path.ofText "/n" = ⟨Path.slash :: Text.bytes "n"⟩ := by decide
  have hnode : world.files.at? [Text.bytes "i"] = some (.file file 0o644) := rfl
  have hnonode : world.files.at? [Text.bytes "n"] = none := rfl
  have hfile : world.read settings.iconPath = .ok file := by
    rw [World.read, Files.Tree.read, hthere,
      Files.Tree.find_below_root world.files _ (by decide) (by simp [hnode]), hnode]
  have hnofile : world.read (Path.ofText "/n") = .error .notFound := by
    rw [World.read, Files.Tree.read, hnot,
      Files.Tree.find_below_root world.files _ (by decide) (by simp [hnonode]), hnonode]
  have hread : Icon.read world settings.iconPath = .ok image := by
    rw [Icon.read, hfile]
    exact hdecoded
  have hmissing : Icon.read world (Path.ofText "/n") =
      .error (.unreadable (Path.ofText "/n") .notFound) := by
    rw [Icon.read, hnofile]
  have hconvert : RefusesOnlyBadLengths convert := by
    intro image hrefused hlength
    simp only [convert, if_pos hlength, Option.isSome_none, Bool.false_eq_true] at hrefused
  have hvisit : visit ∈ App.visits indicator ([call].map (·.converting convert indicator.settings))
      (App.start ⟨[], []⟩) := List.mem_cons_self
  obtain ⟨hicons, hevents⟩ :=
    every_icon_fits_tray.2.2.2 indicator ⟨[], []⟩ [call] convert hconvert visit hvisit
  obtain ⟨hshown, -⟩ := (every_icon_fits_tray.2.1 world settings.iconPath).2
  refine ⟨⟨hdecoded, every_icon_fits_tray.1 file image hdecoded⟩, ⟨hread, hshown image hread⟩,
    ⟨hmissing, ?_⟩, hconvert, ?_, ?_⟩
  · exact (every_icon_fits_tray.2.1 world (Path.ofText "/n")).2.2 _ hmissing
  · have hbuilt : ∃ icon, visit.app.icons = [icon] := ⟨_, rfl⟩
    obtain ⟨icon, hicon⟩ := hbuilt
    obtain ⟨shown, hshows⟩ := hicons icon (by rw [hicon]; exact List.mem_singleton_self icon)
    exact ⟨icon, shown, hicon, hshows⟩
  · exact hevents _ _ rfl

end Runs

end TrayIndicator.Tray
