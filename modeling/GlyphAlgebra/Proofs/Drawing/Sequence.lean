import GlyphAlgebra.Proofs.Drawing.Memory

namespace GlyphAlgebra

variable {backend : FontBackend}

/-- What is left behind when texts are drawn one after another, each by a renderer of its own. -/
def Workshop.after (backend : FontBackend) (w : Workshop) : List (Renderer × String) → Workshop
  | [] => w
  | (r, text) :: jobs => (r.drawText backend text w).2.after backend jobs

/-- What comes of each text when one renderer draws them in turn. -/
def Renderer.drawTexts (r : Renderer) (backend : FontBackend) :
    List String → Workshop → List (Except RenderError Rendering)
  | [], _ => []
  | text :: texts, w =>
    let (result, w) := r.drawText backend text w
    result :: r.drawTexts backend texts w

theorem drawText_library_faithful {r : Renderer} {w : Workshop} (h : w.library.Faithful backend)
    (text : String) : (r.drawText backend text w).2.library.Faithful backend :=
  Renderer.drawText_keeps (P := (·.Faithful backend))
    (fun _ hlibrary => (FontLibrary.Faithful.load hlibrary r.fontSpec).2) text h

/-- No text that was drawn, refused or failed makes the library unfaithful. -/
theorem after_library_faithful {w : Workshop} (h : w.library.Faithful backend)
    (jobs : List (Renderer × String)) : (w.after backend jobs).library.Faithful backend := by
  induction jobs generalizing w with
  | nil => exact h
  | cons job jobs ih => exact ih (drawText_library_faithful h job.2)

theorem drawTexts_faithful {r : Renderer} {w : Workshop} (h : w.library.Faithful backend)
    (texts : List String) :
    r.drawTexts backend texts w = texts.map fun text => (r.drawText backend text .empty).1 := by
  induction texts generalizing w with
  | nil => rfl
  | cons text texts ih =>
    have hfirst : (r.drawText backend text w).1 = (r.drawText backend text .empty).1 :=
      Renderer.drawText_faithful h (FontLibrary.empty_faithful backend) text
    have hkept : (r.drawText backend text w).2.library.Faithful backend :=
      drawText_library_faithful h text
    have hrest := ih hkept
    rw [List.map_cons, ← hfirst, ← hrest]
    rfl

theorem drawText_started (r : Renderer) (backend : FontBackend) (text : String) (w : Workshop) :
    (r.drawText backend text w).2.started =
      w.started + if (parse text).succeeded then 1 else 0 := by
  unfold Reading.succeeded
  cases he : (parse text).expression with
  | none =>
    rw [Renderer.drawText_unread he]
    rfl
  | some e =>
    rw [Renderer.drawText_read he]
    cases hs : r.factory with
    | error err =>
      rw [Renderer.drawTree_error hs]
      rfl
    | ok strategy =>
      rw [Renderer.drawTree_eq hs]
      rfl

/-- A renderer has no memory. Whatever any renderers have drawn before, what comes of each text is
what comes of it in an empty workshop. A strategy is started for a text that is read, also if it is
not drawn in the end, and for no other text. -/
theorem drawTexts_as_alone (backend : FontBackend) (others : List (Renderer × String))
    (r : Renderer) (texts : List String) :
    r.drawTexts backend texts (Workshop.empty.after backend others) =
      texts.map (fun text => (r.drawText backend text .empty).1) ∧
    ∀ text, let w := Workshop.empty.after backend (others ++ texts.map (r, ·))
      (r.drawText backend text w).2.started =
        w.started + if (parse text).succeeded then 1 else 0 := by
  constructor
  · apply drawTexts_faithful
    exact after_library_faithful (FontLibrary.empty_faithful backend) others
  · intro text
    exact drawText_started r backend text _

end GlyphAlgebra
