import LiveSketch.Proofs.Canvas.Blending

/-!
# What always holds of a canvas

A canvas is made with any size, and then called in any order: to draw, to move what is drawn next,
to change its size, to hand out its pending requests. Whatever the arguments are, its sides stay
within their limit, its buffer keeps one entry for each pixel and every entry stays opaque.

The last of these is what blending relies on, which takes its destination to be opaque. It holds
because a blend leaves full alpha behind, however transparent its colour was, and because a new
buffer is black.

## The invariant

`Canvas.Sound` is about the sides and the buffer alone. One step lemma, `Sound.run`, has a case for
each call; the statement about all the calls on a canvas is an induction that uses nothing else. No
assumption is made on overflow, so the invariant holds of the calls before one that overflows, and
of those after it as well.

## Main definitions

* `Canvas.Call`, `Canvas.perform` — the calls on a canvas, and what they do one after the other.

## Main results

* `Canvas.Sound.run`, `Canvas.Sound.perform` — the invariant of one call and of all.
* `Canvas.run_resized` — a call that changes the size leaves a black frame.
* `Canvas.sound_after_calls` — the invariant and what follows from it, after all the calls on a new
  canvas.
-/

namespace LiveSketch
namespace Canvas

/-- A call on a canvas. -/
inductive Call where
  | draw (shape : Shape) (color : Rgba)
  | drawImage (image : Image) (topLeft : Point)
  | clear (color : Rgba)
  | translate (d : Point)
  | resetFrame
  | capture (region : Region)
  | resize (width height : Nat)
  | setSize (width height : Nat)
  | setTitle (title : String)
  | setCursor (visible : Bool)
  | takeRequests

/-- What a call leaves of the canvas. -/
def Call.run : Call → Canvas → Canvas
  | draw shape color, c => c.draw shape color
  | drawImage image topLeft, c => c.drawImage image topLeft
  | clear color, c => c.clear color
  | translate d, c => c.translate d
  | resetFrame, c => c.resetFrame
  | capture region, c => c.reading region
  | resize width height, c => c.resize width height
  | setSize width height, c => c.setSize width height
  | setTitle title, c => c.setTitle title
  | setCursor visible, c => c.setCursor visible
  | takeRequests, c => c.takeRequests.2

/-- Carries out calls one after the other. -/
def perform (c : Canvas) (calls : List Call) : Canvas :=
  calls.foldl (fun c call => call.run c) c

variable {c : Canvas}

/-! ### Changes of the size -/

theorem clampExtent_le (n : Nat) : clampExtent n ≤ maxExtent := Nat.min_le_right _ _

/-- A size that may be asked for is not clamped any further. -/
theorem clampExtent_requestExtent (n : Nat) : clampExtent (requestExtent n) = requestExtent n := by
  simp only [requestExtent, clampExtent, maxExtent]
  omega

theorem setSize_width (c : Canvas) (width height : Nat) :
    (c.setSize width height).width = clampExtent width := by
  rw [setSize]
  split
  · next h => exact h.1.symm
  · rfl

theorem setSize_height (c : Canvas) (width height : Nat) :
    (c.setSize width height).height = clampExtent height := by
  rw [setSize]
  split
  · next h => exact h.2.symm
  · rfl

/-- The current size leaves everything as it is, and a new one leaves a black frame. -/
theorem setSize_cases (c : Canvas) (width height : Nat) :
    c.setSize width height = c ∨
      (c.setSize width height).pixels = Array.replicate (bufferLen width height) .black := by
  rw [setSize]
  split
  · exact Or.inl rfl
  · exact Or.inr rfl

/-- A canvas that was asked to resize has at least one pixel. -/
theorem one_le_resize (c : Canvas) (width height : Nat) :
    1 ≤ (c.resize width height).width ∧ 1 ≤ (c.resize width height).height := by
  show 1 ≤ (c.setSize _ _).width ∧ 1 ≤ (c.setSize _ _).height
  rw [setSize_width, setSize_height, clampExtent_requestExtent, clampExtent_requestExtent]
  exact ⟨Nat.le_max_left _ _, Nat.le_max_left _ _⟩

theorem setSize_pixels_of_same {width height : Nat} (hw : clampExtent width = c.width)
    (hh : clampExtent height = c.height) : (c.setSize width height).pixels = c.pixels := by
  rw [setSize, if_pos ⟨hw, hh⟩]

theorem resize_pixels_of_same {width height : Nat} (hw : requestExtent width = c.width)
    (hh : requestExtent height = c.height) : (c.resize width height).pixels = c.pixels :=
  setSize_pixels_of_same ((clampExtent_requestExtent width).trans hw)
    ((clampExtent_requestExtent height).trans hh)

/-! ### Drawing -/

/-- A shape blends its picture. -/
theorem draw_pixels (c : Canvas) (shape : Shape) (color : Rgba) :
    (c.draw shape color).pixels = (c.blendPicture (shape.picture color c.offset)).pixels := by
  rw [blendPicture]
  show (c.mapPixels fun p old =>
    if shape.covers (p - c.offset) then color.blendOver old else old).pixels = _
  refine congrArg (fun f => (c.mapPixels f).pixels) (funext fun p => funext fun old => ?_)
  rw [Shape.picture]
  cases shape.covers (p - c.offset) <;> rfl

/-- An image blends its picture. -/
theorem drawImage_pixels (c : Canvas) (image : Image) (topLeft : Point) :
    (c.drawImage image topLeft).pixels = (c.blendPicture (image.picture topLeft)).pixels := rfl

/-! ### The invariant -/

namespace Sound

/-- The invariant is about the sides and the buffer alone. -/
theorem congr {d : Canvas} (h : c.Sound) (hw : d.width = c.width) (hh : d.height = c.height)
    (hp : d.pixels = c.pixels) : d.Sound where
  width_le := hw ▸ h.width_le
  height_le := hh ▸ h.height_le
  size_eq := by rw [hw, hh, hp, h.size_eq]
  alpha_eq := hp ▸ h.alpha_eq

/-- A black frame of a clamped size. -/
theorem of_black {width height : Nat} (hw : c.width = clampExtent width)
    (hh : c.height = clampExtent height)
    (hp : c.pixels = Array.replicate (bufferLen width height) .black) : c.Sound where
  width_le := hw ▸ clampExtent_le width
  height_le := hh ▸ clampExtent_le height
  size_eq := by rw [hp, hw, hh, Array.size_replicate, bufferLen]
  alpha_eq color hcolor := by
    obtain ⟨-, rfl⟩ := Array.mem_replicate.mp (hp ▸ hcolor)
    rfl

theorem blank (width height : Nat) : (blank width height).Sound := of_black rfl rfl rfl

theorem setSize (h : c.Sound) (width height : Nat) : (c.setSize width height).Sound := by
  rcases setSize_cases c width height with hsame | hblack
  · exact hsame.symm ▸ h
  · exact of_black (setSize_width c width height) (setSize_height c width height) hblack

theorem clear (h : c.Sound) (color : Rgba) : (c.clear color).Sound where
  width_le := h.width_le
  height_le := h.height_le
  size_eq := Array.size_replicate.trans h.size_eq
  alpha_eq other hother := by
    obtain ⟨-, rfl⟩ := Array.mem_replicate.mp hother
    rfl

/-- No call breaks the invariant. -/
theorem run (h : c.Sound) (call : Call) : (call.run c).Sound := by
  cases call with
  | draw shape color => exact (h.blendPicture _).congr rfl rfl (draw_pixels c shape color)
  | drawImage image topLeft => exact (h.blendPicture (image.picture topLeft)).congr rfl rfl rfl
  | clear color => exact h.clear color
  | resize width height => exact (h.setSize _ _).congr rfl rfl rfl
  | setSize width height => exact h.setSize width height
  | translate _ | resetFrame | capture _ | setTitle _ | setCursor _ | takeRequests =>
    exact h.congr rfl rfl rfl

/-- Any number of calls leave it alone. -/
theorem perform (h : c.Sound) (calls : List Call) : (c.perform calls).Sound := by
  induction calls generalizing c with
  | nil => exact h
  | cons call rest ih => exact ih (h.run call)

end Sound

/-- A call leaves the size as it is, or a black frame. -/
theorem run_resized (c : Canvas) (call : Call) :
    ((call.run c).width = c.width ∧ (call.run c).height = c.height) ∨
      ∀ color ∈ (call.run c).pixels, color = .black := by
  have hset : ∀ width height, (c.setSize width height).width = c.width ∧
      (c.setSize width height).height = c.height ∨
        ∀ color ∈ (c.setSize width height).pixels, color = .black := by
    intro width height
    rcases setSize_cases c width height with hsame | hblack
    · exact Or.inl (hsame.symm ▸ ⟨rfl, rfl⟩)
    · exact Or.inr fun color hcolor => (Array.mem_replicate.mp (hblack ▸ hcolor)).2
  cases call with
  | setSize width height => exact hset width height
  | resize width height => exact hset (requestExtent width) (requestExtent height)
  | draw _ _ | drawImage _ _ | clear _ | translate _ | resetFrame | capture _ | setTitle _
  | setCursor _ | takeRequests => exact Or.inl ⟨rfl, rfl⟩

/-- **A canvas stays sound.** After any calls on a new canvas of any size: both sides are at most
`maxExtent`, the buffer has an entry for each pixel, and each is opaque. There is a pixel exactly at
the positions in the frame, and no mark of a shape or an image that is drawn next, in whatever order
the marks come, has its index outside the buffer. A canvas that is asked to resize has at least one
pixel; a call that changes the size leaves a black frame, and one that asks for the current size
leaves every pixel alone. -/
theorem sound_after_calls (width height : Nat) (calls : List Call) :
    let c := (blank width height).perform calls
    c.Sound ∧
    (∀ x y, (c.pixel x y).isSome ↔ x < c.width ∧ y < c.height) ∧
    (∀ shape color marks, Depicts marks (shape.picture color c.offset) →
      (c.blendEach? marks).map pixels = some (c.draw shape color).pixels) ∧
    (∀ image topLeft marks, Depicts marks (image.picture topLeft) →
      (c.blendEach? marks).map pixels = some (c.drawImage image topLeft).pixels) ∧
    (∀ w h, 1 ≤ (c.resize w h).width ∧ 1 ≤ (c.resize w h).height) ∧
    (∀ call : Call, ((call.run c).width = c.width ∧ (call.run c).height = c.height) ∨
      ∀ color ∈ (call.run c).pixels, color = .black) ∧
    (∀ w h, clampExtent w = c.width → clampExtent h = c.height →
      (c.setSize w h).pixels = c.pixels) ∧
    (∀ w h, requestExtent w = c.width → requestExtent h = c.height →
      (c.resize w h).pixels = c.pixels) := by
  intro c
  have hsound : c.Sound := (Sound.blank width height).perform calls
  refine ⟨hsound, hsound.isSome_pixel, ?_, ?_, one_le_resize c, run_resized c,
    fun _ _ => setSize_pixels_of_same, fun _ _ => resize_pixels_of_same⟩
  · intro shape color marks hmarks
    rw [hsound.blendEach?_eq hmarks, draw_pixels]
    rfl
  · intro image topLeft marks hmarks
    rw [hsound.blendEach?_eq hmarks, drawImage_pixels]
    rfl

/-- A frame of three by two pixels, moved to the right by one, under a half transparent rectangle
that is wider than it. What is drawn next lies partly outside: a line that starts to the left of the
frame, and in its last corner an image whose list is one pixel short. -/
theorem sound_after_calls_of_half_white :
    let c := (blank 3 2).perform [.translate ⟨1, 0⟩, .draw (.rect ⟨0, 0, 5, 1⟩) ⟨255, 255, 255, 128⟩]
    let line := Shape.line ⟨-3, 0⟩ ⟨1, 1⟩
    let image : Image := ⟨2, 2, Array.replicate 3 .white⟩
    c.Sound ∧
    [c.pixel 0 0, c.pixel 1 0, c.pixel 2 0, c.pixel 3 0] =
      [some .black, some (.solid 128 128 128), some (.solid 128 128 128), none] ∧
    (c.blendEach? (line.marks .white c.offset)).map pixels = some (c.draw line .white).pixels ∧
    (c.blendEach? (image.marks ⟨2, 1⟩)).map pixels = some (c.drawImage image ⟨2, 1⟩).pixels ∧
    (c.setSize 3 2).pixels = c.pixels ∧ (c.resize 3 2).pixels = c.pixels ∧
    (c.resize 0 2).pixels = #[.black, .black] := by
  intro c line image
  obtain ⟨hsound, -, hdraw, himage, -, -, hset, hresize⟩ := sound_after_calls 3 2
    [.translate ⟨1, 0⟩, .draw (.rect ⟨0, 0, 5, 1⟩) ⟨255, 255, 255, 128⟩]
  exact ⟨hsound, by decide +kernel, hdraw line .white _ (line.depicts_marks .white c.offset),
    himage image ⟨2, 1⟩ _ (image.depicts_marks ⟨2, 1⟩), hset 3 2 rfl rfl, hresize 3 2 rfl rfl, rfl⟩

end Canvas
end LiveSketch
