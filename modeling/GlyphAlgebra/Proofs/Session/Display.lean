import GlyphAlgebra.Proofs.Drawing.Faults
import GlyphAlgebra.Proofs.Drawing.Memory
import GlyphAlgebra.Proofs.Number.Nearest
import GlyphAlgebra.Proofs.Session.Publishing
import GlyphAlgebra.Session

namespace GlyphAlgebra

/-- What the widgets can give: a size within the slider and a listed name. -/
structure UserEvent.Allowed (event : UserEvent) : Prop where
  size : ∀ n ∈ event.fontSize, 2 ≤ n ∧ n ≤ 1000
  scheme : ∀ name ∈ event.colorStrategy, name ∈ schemeNames

structure Settings.Sound (s : Settings) : Prop where
  size : 2 ≤ s.fontSize ∧ s.fontSize ≤ 1000
  scheme : s.colorStrategy ∈ schemeNames
  family : s.fontFamily ≠ ""

theorem start_sound : Session.start.settings.Sound := ⟨by decide, by decide, by decide⟩

variable {s : Settings} {event : UserEvent}

theorem Settings.Sound.after (h : s.Sound) (he : event.Allowed) : (s.after event).Sound := by
  refine ⟨?_, ?_, ?_⟩
  · cases hn : event.fontSize with
    | none => simpa [Settings.after, hn] using h.size
    | some n => simpa [Settings.after, hn] using he.size n hn
  · cases hn : event.colorStrategy with
    | none => simpa [Settings.after, hn] using h.scheme
    | some name => simpa [Settings.after, hn] using he.scheme name hn
  · simp only [Settings.after]
    split
    next => decide
    next hne => exact hne

/-- Sound settings make a renderer. -/
theorem Settings.Sound.renderer (h : s.Sound) :
    ∃ r, s.renderer = .ok r ∧
      Renderer.ofSchemeName s.colorStrategy (nearestOfInt s.fontSize 1) s.fontFamily = .ok r := by
  obtain ⟨hsmall, _⟩ := h.size
  have hsize : ¬nearestOfInt s.fontSize 1 ≤ 0 := nearestOfInt_positive (by omega)
  obtain ⟨scheme, hscheme, hmade⟩ := Renderer.ofSchemeName_listed h.scheme hsize s.fontFamily
  refine ⟨_, ?_, hmade⟩
  rw [Settings.renderer, hscheme, if_neg (by omega), hmade]
  rfl

namespace Session

/-- The session once the widgets of a run have answered. -/
def take (s : Session) (event : UserEvent) : Session :=
  { s with
    settings := s.settings.after event
    text := (event.text.getD (some s.text)).getD ""
    library := { s.library with requests := [] } }

/-- What a run shows before it draws. -/
def frame (s : Session) : List (Container × Widget) :=
  [(.page, .pageSettings "wide" "Arithmetic of Letters"), sizeSlider s.settings]
    ++ settingWidgets s.settings (schemeNames.idxOf s.settings.colorStrategy) ++ referenceWidgets
    ++ [expressionBox s]

structure Sound (s : Session) (presses : Nat) : Prop where
  settings : s.settings.Sound
  committed : s.latest.committed ≤ s.latest.issued
  version : s.inputVersion = presses

end Session

/-- What a run shows of the outcome of its drawing. -/
def outcomeWidgets : Except RenderError Rendering → List (Container × Widget)
  | .ok r => resultWidgets r ++ r.reading.expression.toList.flatMap formWidgets
  | .error e =>
    if e.isExpected then [(.wideColumn, .error s!"Render failed: {e.message}" "🚫")] else []

def prettyButton : Container × Widget := (.narrowColumn, .button "✨ Pretty" "pretty_btn" true)

/-- The button is among what is shown and was pressed. -/
def UserEvent.presses (event : UserEvent) (calls : List (Container × Widget)) : Bool :=
  event.prettyPressed && calls.contains prettyButton

/-- A run that shows an outcome and nothing else. Only a result is published, as the newest one;
what fails without an announcement ends the run. -/
def RunReport.Tells (report : RunReport) (s : Session) (event : UserEvent)
    (outcome : Except RenderError Rendering) : Prop :=
  report.calls = s.frame ++ outcomeWidgets outcome ∧
  match outcome with
  | .ok r =>
    s.latest.request.2.commit s.latest.request.1 r = (true, report.session.latest) ∧
    report.session.latest.latest = some r ∧
    report.result = if event.presses report.calls then .rerun else .done
  | .error e =>
    report.session.latest = s.latest.request.2 ∧
    report.result = if e.isExpected then .stop else .error (.render e)

namespace Session

variable {s : Session} {presses : Nat} {backend : FontBackend} {r : Renderer}

theorem run_eq (h : s.settings.colorStrategy ∈ schemeNames) (backend : FontBackend)
    (event : UserEvent) :
    s.run backend event =
      ⟨s.frame ++ ((s.take event).present backend event).1,
        ((s.take event).present backend event).2.1, ((s.take event).present backend event).2.2,
        ((s.take event).present backend event).2.2.library.requests⟩ := by
  have hindex : schemeNames.idxOf? s.settings.colorStrategy =
      some (schemeNames.idxOf s.settings.colorStrategy) :=
    List.findIdx?_eq_some_of_exists ⟨_, h, beq_self_eq_true _⟩
  simp only [Session.run, hindex]
  rfl

theorem draw_eq (s : Session) (backend : FontBackend) (r : Renderer)
    (h : s.settings.fontSize ≤ 1000) :
    s.draw backend r =
      ((r.drawText backend s.text ⟨s.library, [], 0⟩).1.mapError .render,
        { s with library := (r.drawText backend s.text ⟨s.library, [], 0⟩).2.library }) := by
  have hlarge : 1000 < floatOverflow := by decide +kernel
  rw [draw, decide_eq_false (by omega), Bool.false_and, if_neg Bool.false_ne_true]

theorem present_eq (hr : s.settings.renderer = .ok r) (hn : s.settings.fontSize ≤ 1000)
    (backend : FontBackend) (event : UserEvent) :
    s.present backend event =
      match (r.drawText backend s.text ⟨s.library, [], 0⟩).1 with
      | .error e =>
        (outcomeWidgets (.error e), if e.isExpected then .stop else .error (.render e),
          { s with
            latest := s.latest.request.2
            library := (r.drawText backend s.text ⟨s.library, [], 0⟩).2.library })
      | .ok result =>
        display { s with
          latest := (s.latest.request.2.commit s.latest.request.1 result).2
          library := (r.drawText backend s.text ⟨s.library, [], 0⟩).2.library } event := by
  have hdraw := draw_eq ⟨s.settings, s.text, s.inputVersion, s.latest.request.2, s.library⟩
    backend r hn
  rw [present]
  dsimp only at hdraw ⊢
  rw [hr]
  dsimp only
  rw [hdraw]
  cases (r.drawText backend s.text ⟨s.library, [], 0⟩).1 with
  | error e =>
    have hexpected : (SessionError.render e).isExpected = e.isExpected := rfl
    dsimp only [Except.mapError]
    rw [outcomeWidgets, hexpected]
    split <;> rfl
  | ok result => rfl

theorem presses_frame (s : Session) (event : UserEvent) (calls : List (Container × Widget)) :
    event.presses (s.frame ++ calls) = event.presses calls := by
  have hframe : s.frame.contains prettyButton = false := by
    simp [prettyButton, frame, sizeSlider, settingWidgets, referenceWidgets, expressionBox]
  rw [UserEvent.presses, UserEvent.presses, List.contains_append, hframe, Bool.false_or]

theorem presses_error (event : UserEvent) (e : RenderError) :
    event.presses (outcomeWidgets (.error e)) = false := by
  rw [UserEvent.presses, outcomeWidgets]
  split <;> simp [prettyButton]

/-- The display shows the latest result. A press changes the text and counts up the version. -/
theorem display_eq {result : Rendering} (h : s.latest.latest = some result) (event : UserEvent) :
    ∃ text, s.display event =
      (outcomeWidgets (.ok result),
        if event.presses (outcomeWidgets (.ok result)) then .rerun else .done,
        { s with
          text := text
          inputVersion :=
            s.inputVersion + (event.presses (outcomeWidgets (.ok result))).toNat }) := by
  have hresult : prettyButton ∉ resultWidgets result := by
    rw [resultWidgets]
    split <;> simp [prettyButton]
  -- The button stands only beside an expression, so without one a press is not counted.
  cases he : result.reading.expression with
  | none =>
    refine ⟨s.text, ?_⟩
    simp [display, h, he, UserEvent.presses, outcomeWidgets, hresult]
  | some e =>
    have hform : prettyButton ∈ formWidgets e := by simp [prettyButton, formWidgets]
    simp only [display, h, he, UserEvent.presses, outcomeWidgets]
    cases event.prettyPressed
    · exact ⟨s.text, by simp⟩
    · exact ⟨infixForm e, by simp [hform]⟩

theorem present_ok (hr : s.settings.renderer = .ok r) (hn : s.settings.fontSize ≤ 1000)
    (hc : s.latest.committed ≤ s.latest.issued) {result : Rendering}
    (ho : (r.drawText backend s.text ⟨s.library, [], 0⟩).1 = .ok result) (event : UserEvent) :
    s.latest.request.2.commit s.latest.request.1 result =
        (true, ⟨s.latest.issued + 1, s.latest.issued + 1, some result⟩) ∧
      ∃ text, s.present backend event =
        (outcomeWidgets (.ok result),
          if event.presses (outcomeWidgets (.ok result)) then .rerun else .done,
          { s with
            text := text
            inputVersion := s.inputVersion + (event.presses (outcomeWidgets (.ok result))).toNat
            latest := ⟨s.latest.issued + 1, s.latest.issued + 1, some result⟩
            library := (r.drawText backend s.text ⟨s.library, [], 0⟩).2.library }) := by
  have hnewer : s.latest.request.2.committed < s.latest.request.1 := Int.lt_add_one_of_le hc
  have hcommit := Newest.commit_new hnewer result
  refine ⟨hcommit, ?_⟩
  rw [present_eq hr hn, ho]
  dsimp only
  rw [hcommit]
  exact display_eq rfl event

/-- One run of a sound session tells its outcome, and leaves a sound session. -/
theorem Sound.run (h : s.Sound presses) (he : event.Allowed) (backend : FontBackend) :
    ∃ r, Renderer.ofSchemeName (s.take event).settings.colorStrategy
        (nearestOfInt (s.take event).settings.fontSize 1) (s.take event).settings.fontFamily =
          .ok r ∧
      (s.run backend event).Tells s event
        (r.drawText backend (s.take event).text ⟨(s.take event).library, [], 0⟩).1 ∧
      (s.run backend event).session.library =
        (r.drawText backend (s.take event).text ⟨(s.take event).library, [], 0⟩).2.library ∧
      (s.run backend event).session.Sound
        (presses + (event.presses (s.run backend event).calls).toNat) := by
  have htaken : (s.take event).settings.Sound := h.settings.after he
  obtain ⟨r, hr, hmade⟩ := htaken.renderer
  refine ⟨r, hmade, ?_⟩
  have hrun := run_eq h.settings.scheme backend event
  cases ho : (r.drawText backend (s.take event).text ⟨(s.take event).library, [], 0⟩).1 with
  | error e =>
    rw [present_eq hr htaken.size.2, ho] at hrun
    rw [hrun, RunReport.Tells, presses_frame, presses_error]
    -- An id was given out and is never used, so the distance to the committed one grows.
    have hcommitted : s.latest.committed ≤ s.latest.issued + 1 :=
      Int.le_trans h.committed (by omega)
    exact ⟨⟨rfl, rfl, rfl⟩, rfl, htaken, hcommitted, h.version⟩
  | ok result =>
    obtain ⟨hcommit, text, hpresent⟩ := present_ok hr htaken.size.2 h.committed ho event
    rw [hpresent] at hrun
    rw [hrun, RunReport.Tells, presses_frame]
    refine ⟨⟨rfl, hcommit, rfl, rfl⟩, rfl, htaken, Int.le_refl _, ?_⟩
    exact congrArg (· + _) h.version

/-- Sessions after some runs, with how often the button was pressed. Each run may meet another font
system. -/
inductive Reached (fonts : FontBackend → Prop) : Session → Nat → Prop
  | start : Reached fonts .start 0
  | run {s : Session} {presses : Nat} {backend : FontBackend} {event : UserEvent} :
      Reached fonts s presses → fonts backend → event.Allowed →
      Reached fonts (s.run backend event).session
        (presses + (event.presses (s.run backend event).calls).toNat)

variable {fonts : FontBackend → Prop}

theorem Reached.sound (h : Reached fonts s presses) : s.Sound presses := by
  induction h with
  | start => exact ⟨start_sound, Int.le_refl _, rfl⟩
  | run _ _ he ih =>
    obtain ⟨_, _, _, _, hsound⟩ := ih.run he _
    exact hsound

/-- With only one font system the fonts that a session remembers are those it finds. -/
theorem Reached.faithful (h : Reached fonts s presses)
    (hfonts : ∀ other, fonts other → other = backend) : s.library.Faithful backend := by
  induction h with
  | start => exact FontLibrary.empty_faithful backend
  | run hs hb he ih =>
    obtain rfl := hfonts _ hb
    obtain ⟨r, _, _, hlibrary, _⟩ := hs.sound.run he _
    rw [hlibrary]
    exact r.drawText_keeps (P := (·.Faithful _)) (fun library h => (h.load _).2) _ ih

/-- What runs one after another are runs of reached sessions. -/
theorem Reached.runAll {events : List UserEvent} (h : Reached fonts s presses) (hb : fonts backend)
    (he : ∀ event ∈ events, event.Allowed) {report : RunReport}
    (hr : report ∈ s.runAll backend events) :
    ∃ s' presses' event, Reached fonts s' presses' ∧ event.Allowed ∧
      report = s'.run backend event := by
  induction events generalizing s presses with
  | nil => cases hr
  | cons event events ih =>
    have hevent := he event (List.mem_cons_self ..)
    have hrest : ∀ event ∈ events, event.Allowed := fun e h => he e (List.mem_cons_of_mem _ h)
    have hidle : UserEvent.idle.Allowed := ⟨nofun, nofun⟩
    have hfirst := h.run hb hevent
    rw [Session.runAll] at hr
    split at hr
    -- A press asks for a second run, which the user has no part in.
    next =>
      rcases List.mem_cons.mp hr with rfl | hr
      · exact ⟨s, presses, event, h, hevent, rfl⟩
      · rcases List.mem_cons.mp hr with rfl | hr
        · exact ⟨_, _, .idle, hfirst, hidle, rfl⟩
        · exact ih (hfirst.run hb hidle) hrest hr
    next =>
      rcases List.mem_cons.mp hr with rfl | hr
      · exact ⟨s, presses, event, h, hevent, rfl⟩
      · exact ih hfirst hrest hr

/-- A run shows what drawing its own text in its own settings comes to, and nothing else, with
a fixed font system as if nothing had been drawn before. All sessions that are reached are sound. -/
theorem run_shows_outcome (h : Reached fonts s presses) (he : event.Allowed)
    (backend : FontBackend) :
    s.Sound presses ∧
    ∃ r, Renderer.ofSchemeName (s.take event).settings.colorStrategy
        (nearestOfInt (s.take event).settings.fontSize 1) (s.take event).settings.fontFamily =
          .ok r ∧
      let outcome := (r.drawText backend (s.take event).text ⟨(s.take event).library, [], 0⟩).1
      ((∀ other, fonts other → other = backend) →
        outcome = (r.drawText backend (s.take event).text .empty).1) ∧
      (s.run backend event).Tells s event outcome := by
  obtain ⟨r, hr, htells, _, _⟩ := h.sound.run he backend
  refine ⟨h.sound, r, hr, fun hfonts => ?_, htells⟩
  have hlibrary : (s.take event).library.Faithful backend := h.faithful hfonts
  exact r.drawText_faithful hlibrary (FontLibrary.empty_faithful backend) _

/-- Types one letter and presses the button. -/
def dotEvent : UserEvent := { UserEvent.idle with text := some (some "A"), prettyPressed := true }

def dotSession : Session := (Session.start.run dotBackend dotEvent).session

/-- The text box hands back nothing. -/
def blankEvent : UserEvent := { UserEvent.idle with text := some none }

theorem run_shows_outcome_dots :
    Reached (· = dotBackend) dotSession 1 ∧ blankEvent.Allowed ∧ dotSession.Sound 1 ∧
      (dotSession.latest.latest.bind Rendering.bitmap).isSome = true ∧
      (dotSession.run dotBackend blankEvent).calls = dotSession.frame ++
        [(.wideColumn, .error (parse "").message "⚠️")] := by
  have hpressed : dotEvent.presses (Session.start.run dotBackend dotEvent).calls = true := by
    decide +kernel
  have hreached : Reached (· = dotBackend) dotSession 1 := by
    have hdot : dotEvent.Allowed := ⟨nofun, nofun⟩
    have hrun : Reached (· = dotBackend) dotSession
        (0 + (dotEvent.presses (Session.start.run dotBackend dotEvent).calls).toNat) :=
      Reached.start.run rfl hdot
    rwa [hpressed] at hrun
  have hblank : blankEvent.Allowed := ⟨nofun, nofun⟩
  obtain ⟨hsound, r, _, _, hcalls, _⟩ := run_shows_outcome hreached hblank dotBackend
  have htext : (dotSession.take blankEvent).text = "" := rfl
  have hunread : (parse "").expression = none := by decide +kernel
  refine ⟨hreached, hblank, hsound, by decide +kernel, ?_⟩
  rw [hcalls, htext, r.drawText_unread hunread]
  simp [outcomeWidgets, resultWidgets, hunread]

def endlessEvent : UserEvent :=
  { UserEvent.idle with text := some (some "A"), fontFamily := some "serif" }

/-- A run can show neither a result nor a failure. -/
theorem run_shows_nothing :
    ¬∀ (backend : FontBackend) (event : UserEvent), event.Allowed →
      (Session.start.run backend event).session.latest.latest.isSome = true ∨
        ∃ message, (.wideColumn, .error message "🚫") ∈
          (Session.start.run backend event).calls := by
  intro h
  have hresult :
      (Session.start.run endlessBackend endlessEvent).session.latest.latest.isSome = false := by
    decide +kernel
  have hfailure : ((Session.start.run endlessBackend endlessEvent).calls.any fun
      | (_, .error _ _) => true
      | _ => false) = false := by decide +kernel
  rcases h endlessBackend endlessEvent ⟨nofun, nofun⟩ with hsome | ⟨message, hmem⟩
  · exact Bool.false_ne_true (hresult.symm.trans hsome)
  · exact List.any_eq_false.mp hfailure _ hmem rfl

end Session

end GlyphAlgebra
